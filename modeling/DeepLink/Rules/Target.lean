import DeepLink.Rules.Os

namespace DeepLink

structure Target where
  ios : Option String := none
  android : Option String := none
  web : Option String := none
  fallback : Option String := none
deriving DecidableEq, Repr

namespace Target

def deepLink (t : Target) : Os → Option String
  | .iOS => t.ios
  | .android => t.android
  | .desktop => none

def fallbackOrWeb (t : Target) : Option String := t.fallback.or t.web

def isEmpty (t : Target) : Bool := t = {}

def links (t : Target) : List (String × String) :=
  [("ios", t.ios), ("android", t.android), ("web", t.web), ("fallback", t.fallback)].filterMap
    fun (name, uri) => uri.map (name, ·)

def toJson (t : Target) : Json :=
  .record
    [("ios", t.ios.map .string), ("android", t.android.map .string), ("web", t.web.map .string),
      ("fallback", t.fallback.map .string)]

def form : Json.Form :=
  .record
    [(["ios", "deepLinkIOS"], .whole), (["android", "deepLinkAndroid"], .whole), (["web"], .whole),
      (["fallback"], .whole)]

def ofJson? (j : Json) : Option Target := do
  let [ios, android, web, fallback] ← j.slots form | none
  return {
    ios := ← Json.optional Json.string? ios
    android := ← Json.optional Json.string? android
    web := ← Json.optional Json.string? web
    fallback := ← Json.optional Json.string? fallback }

end Target

end DeepLink
