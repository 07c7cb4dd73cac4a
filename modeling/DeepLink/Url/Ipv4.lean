import DeepLink.Text.Split
import DeepLink.Url.Percent

namespace DeepLink.Url.Ipv4

def digits? (base : Nat) (s : List Char) : Option Nat :=
  s.foldlM (fun n c => do
    let d ← hexDigit? c
    if d.toNat < base then some (n * base + d.toNat) else none) 0

def number? : List Char → Option Nat
  | [] => none
  | '0' :: 'x' :: s => digits? 16 s
  | '0' :: 'X' :: s => digits? 16 s
  | '0' :: c :: s => digits? 8 (c :: s)
  | s => digits? 10 s

def labels (s : List Char) : List (List Char) :=
  let parts := Text.split '.' s
  if parts.getLast? = some [] then parts.dropLast else parts

def isCandidate (s : List Char) : Bool :=
  match (labels s).getLast? with
  | some label => (!label.isEmpty && label.all Char.isDigit) || (number? label).isSome
  | none => false

def isValid (s : List Char) : Bool :=
  let parts := labels s
  match parts.mapM number? with
  | some numbers =>
    parts.length ≤ 4 &&
      (match numbers.getLast? with
        | some last => last < 1 <<< (8 * (5 - numbers.length))
        | none => false) &&
      numbers.dropLast.all (· ≤ 255)
  | none => false

end DeepLink.Url.Ipv4
