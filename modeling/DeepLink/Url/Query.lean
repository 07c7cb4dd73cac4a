import DeepLink.Url.Basic

namespace DeepLink.Url

def formText (s : List Char) : List Char :=
  Utf8.decode (percentDecode (s.map fun c => if c = '+' then ' ' else c))

def pairs (query : List Char) : List (List Char × List Char) :=
  ((Text.split '&' query).filter (!·.isEmpty)).map fun part =>
    let (name, value) := Text.cut '=' part
    (formText name, formText (value.getD []))

def parameter? (name : String) (url : Url) : Option String := do
  let query ← url.query
  let (_, value) ← (pairs query).find? (·.1 = name.toList)
  return String.ofList value

end DeepLink.Url
