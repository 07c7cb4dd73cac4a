import DeepLink.Text.Utf8

namespace DeepLink.Url

def hexDigit? (c : Char) : Option UInt8 :=
  if '0' ≤ c ∧ c ≤ '9' then some (c.toNat - 48).toUInt8
  else if 'a' ≤ c ∧ c ≤ 'f' then some (c.toNat - 87).toUInt8
  else if 'A' ≤ c ∧ c ≤ 'F' then some (c.toNat - 55).toUInt8
  else none

def charBytes (c : Char) : List UInt8 := Utf8.bytes (String.singleton c)

def percentDecode : List Char → List UInt8
  | [] => []
  | '%' :: a :: b :: s =>
    match hexDigit? a, hexDigit? b with
    | some x, some y => (16 * x + y) :: percentDecode s
    | _, _ => 0x25 :: percentDecode (a :: b :: s)
  | c :: s => charBytes c ++ percentDecode s

end DeepLink.Url
