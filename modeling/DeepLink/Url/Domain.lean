import DeepLink.Text.Split
import DeepLink.Url.Label

namespace DeepLink.Url.Domain

def mapped? (name : List Char) : Option (List Char) :=
  if Label.isAscii name then some (name.map Char.toLower)
  else (name.mapM Mapping.image?).map fun parts => Unicode.compose parts.flatten

def isForbidden (c : Char) : Bool :=
  c.toNat ≤ 0x20 || c.toNat == 0x7F || "%#/:<>?@[\\]^|".toList.contains c

def areValid (texts : List (List Char)) : Bool :=
  !texts.any Unicode.Direction.anyRight || texts.all Unicode.Direction.isReadable

def normalized? (name : List Char) : Option (List Char) := do
  let name ← mapped? name
  if name.any isForbidden then none
  else
    let texts ← (Text.split '.' name).mapM Label.text?
    if areValid texts then some name else none

end DeepLink.Url.Domain
