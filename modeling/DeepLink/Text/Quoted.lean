import DeepLink.Text.Hidden

namespace DeepLink.Text

def shown (c : Char) : List Char :=
  if c = '"' then ['\\', '"']
  else if c = '\\' then ['\\', '\\']
  else if c = '\x00' then ['\\', '0']
  else if c = '\t' then ['\\', 't']
  else if c = '\n' then ['\\', 'n']
  else if c = '\r' then ['\\', 'r']
  else if isHidden c then '\\' :: 'u' :: '{' :: Nat.toDigits 16 c.toNat ++ ['}']
  else [c]

def quoted (s : String) : String := String.ofList ('"' :: s.toList.flatMap shown ++ ['"'])

end DeepLink.Text
