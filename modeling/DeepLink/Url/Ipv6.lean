import DeepLink.Text.Split
import DeepLink.Url.Percent

namespace DeepLink.Url.Ipv6

def isGroup (s : List Char) : Bool :=
  1 ≤ s.length && s.length ≤ 4 && s.all fun c => (hexDigit? c).isSome

def isByte (s : List Char) : Bool :=
  1 ≤ s.length && s.length ≤ 3 && s.all Char.isDigit && (s.length == 1 || s.head? != some '0') &&
    s.foldl (fun n c => n * 10 + (c.toNat - 48)) 0 ≤ 255

def isDotted (s : List Char) : Bool :=
  let parts := Text.split '.' s
  parts.length == 4 && parts.all isByte

def count (dotted : Bool) : List (List Char) → Option Nat
  | [] => some 0
  | [s] => if isGroup s then some 1 else if dotted && isDotted s then some 2 else none
  | s :: rest => if isGroup s then (count dotted rest).map (· + 1) else none

def groups (s : List Char) : List (List Char) := if s.isEmpty then [] else Text.split ':' s

def halves? : List Char → Option (List Char × List Char)
  | ':' :: ':' :: s => some ([], s)
  | c :: s => (halves? s).map fun (a, b) => (c :: a, b)
  | [] => none

def isValid (s : List Char) : Bool :=
  match halves? s with
  | some (a, b) =>
    match count false (groups a), count true (groups b) with
    | some m, some n => m + n ≤ 7
    | _, _ => false
  | none => count true (groups s) == some 8

end DeepLink.Url.Ipv6
