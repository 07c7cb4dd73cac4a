import DeepLink.Text.Blank
import DeepLink.Url.Host

/-!
Absolute URLs: which texts are accepted, and the query of one that is.
-/

namespace DeepLink

structure Url where
  scheme : String
  query : Option (List Char)
deriving DecidableEq, Repr

namespace Url

def clean (text : List Char) : List Char :=
  let edge (c : Char) : Bool := c.toNat ≤ 0x20
  ((text.dropWhile edge).reverse.dropWhile edge).reverse.filter fun c => c ≠ '\t' ∧ c ≠ '\n' ∧ c ≠ '\r'

def isSchemeChar (c : Char) : Bool := c.isAlphanum || c = '+' || c = '-' || c = '.'

def scheme? : List Char → Option (List Char × List Char)
  | [] => none
  | c :: s =>
    if c.isAlpha then
      match s.dropWhile isSchemeChar with
      | ':' :: r => some ((c :: s.takeWhile isSchemeChar).map Char.toLower, r)
      | _ => none
    else none

inductive Kind where
  | web | file | other
deriving DecidableEq, Repr

def kind (scheme : List Char) : Kind :=
  if ["http", "https", "ws", "wss", "ftp"].contains (String.ofList scheme) then .web
  else if String.ofList scheme = "file" then .file
  else .other

def ends (web : Bool) (c : Char) : Bool := c = '/' || c = '?' || c = '#' || (web && c = '\\')

def user (authority : List Char) : Option (List Char) × List Char :=
  let host := (authority.reverse.takeWhile (· ≠ '@')).reverse
  if host.length = authority.length then (none, host)
  else (some (authority.take (authority.length - host.length - 1)), host)

def host (inside : Bool) : List Char → List Char × List Char
  | [] => ([], [])
  | c :: s =>
    if c = ':' ∧ !inside then ([], c :: s)
    else
      let (h, r) := host (if c = '[' then true else if c = ']' then false else inside) s
      (c :: h, r)

def portNumber (value : Nat) : List Char → Except Fault Unit
  | [] => .ok ()
  | c :: s =>
    if c.isDigit then
      let value := value * 10 + (c.toNat - 48)
      if value > 65535 then .error .badPort else portNumber value s
    else if c = '\\' then .ok ()
    else .error .badPort

def portPart (s : List Char) : Except Fault Unit :=
  match s with
  | ':' :: digits => portNumber 0 digits
  | _ => .ok ()

def authority (web : Bool) (s : List Char) : Except Fault Unit :=
  let whole := s.takeWhile fun c => !ends web c
  let (user, rest) := user whole
  let (host, portText) := host false rest
  if user = some [] ∧ rest.isEmpty ∧ whole.length < s.length then .error .emptyHost
  else if web then do
    if host.isEmpty then .error .emptyHost
    Host.domain host
    portPart portText
  else do
    Host.plain host
    if host.isEmpty ∧ !portText.isEmpty then .error .emptyHost
    portPart portText
    if host.isEmpty ∧ user.any (fun u => u ≠ [] ∧ u ≠ [':']) then .error .emptyHost

def isSlash (c : Char) : Bool := c = '/' || c = '\\'

def isDrive : List Char → Bool
  | [c, d] => c.isAlpha && (d = ':' || d = '|')
  | _ => false

def fileHost (s : List Char) : Except Fault Unit :=
  match s with
  | a :: b :: r =>
    if isSlash a && isSlash b then
      let host := r.takeWhile fun c => !ends true c
      if host.isEmpty ∨ isDrive host then .ok () else Host.domain host
    else .ok ()
  | _ => .ok ()

def check (kind : Kind) (s : List Char) : Except Fault Unit :=
  match kind with
  | .web => authority true (s.dropWhile isSlash)
  | .file => fileHost s
  | .other =>
    match s with
    | '/' :: '/' :: r => authority false r
    | _ => .ok ()

def queryOf (s : List Char) : Option (List Char) :=
  match (s.takeWhile (· ≠ '#')).dropWhile (· ≠ '?') with
  | [] => none
  | _ :: q => some q

def parse (text : String) : Except Fault Url :=
  match scheme? (clean text.toList) with
  | none => .error .noBase
  | some (scheme, rest) => do
    check (kind scheme) rest
    return ⟨String.ofList scheme, queryOf rest⟩

end Url

end DeepLink
