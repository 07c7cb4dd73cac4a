import DeepLink.Json.Basic

namespace DeepLink.Json

def hexDigit (n : Nat) : Char := Char.ofNat (if n < 10 then 48 + n else 87 + n)

def escape (c : Char) : List Char :=
  if c = '"' then ['\\', '"']
  else if c = '\\' then ['\\', '\\']
  else if c = '\x08' then ['\\', 'b']
  else if c = '\x0c' then ['\\', 'f']
  else if c = '\n' then ['\\', 'n']
  else if c = '\r' then ['\\', 'r']
  else if c = '\t' then ['\\', 't']
  else if c.toNat < 0x20 then ['\\', 'u', '0', '0', hexDigit (c.toNat / 16), hexDigit (c.toNat % 16)]
  else [c]

def quote (s : List Char) : List Char := '"' :: s.flatMap escape ++ ['"']

def Number.chars : Number → List Char
  | integer i => if i < 0 then '-' :: Decimal.numeral i.natAbs else Decimal.numeral i.natAbs
  | real x => x.compact

mutual

def chars : Json → List Char
  | null => ['n', 'u', 'l', 'l']
  | bool true => ['t', 'r', 'u', 'e']
  | bool false => ['f', 'a', 'l', 's', 'e']
  | number n => n.chars
  | string s => quote s.toList
  | array items => '[' :: itemChars items ++ [']']
  | object members => '{' :: memberChars members ++ ['}']

def itemChars : List Json → List Char
  | [] => []
  | [v] => v.chars
  | v :: w :: rest => v.chars ++ ',' :: itemChars (w :: rest)

def memberChars : List (String × Json) → List Char
  | [] => []
  | [(name, v)] => quote name.toList ++ ':' :: v.chars
  | (name, v) :: m :: rest => quote name.toList ++ ':' :: v.chars ++ ',' :: memberChars (m :: rest)

end

def render (v : Json) : String := String.ofList v.chars

end DeepLink.Json
