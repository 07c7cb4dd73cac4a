import DeepLink.Json.Record
import DeepLink.Time.Instant

namespace DeepLink

inductive Mode where
  | assign | replace
deriving DecidableEq, Repr

namespace Mode

def all : List Mode := [assign, replace]

def name : Mode → String
  | assign => "assign"
  | replace => "replace"

def ofName? (name : String) : Option Mode := all.find? (·.name = name)

def toJson (m : Mode) : Json := .string m.name

def ofJson? (j : Json) : Option Mode := j.name?.bind ofName?

end Mode

inductive Visibility where
  | visible | hidden
deriving DecidableEq, Repr

inductive Refusal where
  | rejected (url reason : String)
  | noSurface
deriving DecidableEq, Repr

def Refusal.message : Refusal → String
  | rejected url reason => s!"navigation to '{url}' rejected: {reason}"
  | noSurface => "no navigation surface available"

structure Call where
  earlier : Nat
  url : String
  mode : Mode
deriving DecidableEq, Repr

abbrev Navigator := Call → Option Refusal

structure Ban where
  start : String
  reason : Option String
deriving DecidableEq, Repr

def Ban.refusal (b : Ban) (url : String) : Refusal :=
  match b.reason with
  | some reason => .rejected url reason
  | none => .noSurface

def begins (start url : String) : Bool := start.toList.isPrefixOf url.toList

def Navigator.ofBans (bans : List Ban) : Navigator := fun call =>
  (bans.find? fun b => begins b.start call.url).map (·.refusal call.url)

/-- What a host reports about the visibility of the page: nothing, a subscription that begins when it
is asked for, or one that began before everything else. -/
inductive Reports where
  | none | fresh | stale
deriving DecidableEq, Repr

inductive Signal where
  | send (v : Visibility)
  | close
deriving DecidableEq, Repr

structure Reaction where
  start : String
  signal : Signal
deriving DecidableEq, Repr

def reactions (rs : List Reaction) : Call → List Signal := fun call =>
  (rs.filter fun r => begins r.start call.url).map (·.signal)

structure Environment where
  url : Option String := none
  userAgent : Option String := none
  language : Option String := none
  now : Instant
  surface : Bool := true
  reports : Reports := .fresh
  navigator : Navigator := fun _ => none
  sets : Call → List Signal := fun _ => []

namespace Environment

def processLanguage (lookup : String → Option String) : Option String :=
  ["LC_ALL", "LANG"].findSome? fun name => (lookup name).filter (· ≠ "")

def headless (lookup : String → Option String) (now : Instant) : Environment where
  language := processLanguage lookup
  now := now
  surface := false
  reports := .none
  navigator := fun _ => some .noSurface

end Environment

end DeepLink
