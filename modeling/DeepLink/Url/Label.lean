import DeepLink.Unicode.Composition
import DeepLink.Unicode.Direction
import DeepLink.Unicode.Joining
import DeepLink.Url.Mapping
import DeepLink.Url.Punycode

namespace DeepLink.Url.Label

def isAscii (s : List Char) : Bool := s.all (·.toNat < 0x80)

def textLimit : Nat := 1000

def encodedLimit : Nat := 2000

open Unicode

def joinersFit (before : List Char) : List Char → Bool
  | [] => true
  | c :: s =>
    (c ≠ '\u200C' && c ≠ '\u200D' || before.head?.any isVirama ||
      c = '\u200C' && joinsBy [.left, .dual] before && joinsBy [.right, .dual] s) &&
      joinersFit (c :: before) s

def isText (s : List Char) : Bool :=
  s.length ≤ textLimit && !s.head?.any isMark && joinersFit [] s

def startsEncoded (s : List Char) : Bool := ['x', 'n', '-', '-'].isPrefixOf s

def decode? (s : List Char) : Option (List Char) :=
  if isAscii s && s.getLast?.any (· ≠ '-') && s.length ≤ encodedLimit then
    (Punycode.decode? s).filter fun t =>
      t.all Mapping.keeps && compose t = t && !startsEncoded t && isText t
  else none

def text? (label : List Char) : Option (List Char) :=
  if startsEncoded label then decode? (label.drop 4)
  else if isAscii label || isText label then some label
  else none

end DeepLink.Url.Label
