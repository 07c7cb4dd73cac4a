import DeepLink.Rules.Os
import DeepLink.Time.Stamp

namespace DeepLink

structure DateRange where
  start : Option Instant := none
  finish : Option Instant := none
deriving DecidableEq, Repr

structure Rollout where
  percentage : Binary64
  seed : Option String := none
deriving DecidableEq, Repr

structure Condition where
  os : Option (List Os) := none
  lang : Option (List String) := none
  dateRange : Option DateRange := none
  rollout : Option Rollout := none
deriving DecidableEq, Repr

def Instant.toJson (t : Instant) : Json := .string t.text

def Instant.ofJson? (j : Json) : Option Instant := j.string?.bind Instant.relaxed?

namespace DateRange

def contains (r : DateRange) (now : Instant) : Bool :=
  r.start.all (· ≤ now) && r.finish.all (now ≤ ·)

def toJson (r : DateRange) : Json :=
  .record [("start", r.start.map Instant.toJson), ("end", r.finish.map Instant.toJson)]

def form : Json.Form := .record [(["start"], .whole), (["end"], .whole)]

def ofJson? (j : Json) : Option DateRange := do
  let [start, finish] ← j.slots form | none
  return {
    start := ← Json.optional Instant.ofJson? start
    finish := ← Json.optional Instant.ofJson? finish }

end DateRange

namespace Rollout

def admits (r : Rollout) (bucket : Nat) : Bool := r.percentage.above bucket

def toJson (r : Rollout) : Json :=
  match r.seed with
  | none => .ofBinary r.percentage
  | some seed => .object [("percentage", .ofBinary r.percentage), ("seed", .string seed)]

def form : Json.Form := .record [(["percentage"], .whole), (["seed"], .whole)]

def ofJson? (j : Json) : Option Rollout :=
  match j with
  | .number n => some { percentage := n.toBinary }
  | .object _ => do
    let [percentage, seed] ← j.slots form | none
    return {
      percentage := (← Json.required Json.number? percentage).toBinary
      seed := ← Json.optional Json.string? seed }
  | _ => none

end Rollout

namespace Condition

def toJson (c : Condition) : Json :=
  .record
    [("os", c.os.map (.ofList Os.toJson)), ("lang", c.lang.map (.ofList .string)),
      ("dateRange", c.dateRange.map DateRange.toJson), ("rollout", c.rollout.map Rollout.toJson)]

def form : Json.Form :=
  .record [(["os"], .whole), (["lang"], .whole), (["dateRange"], DateRange.form), (["rollout"], .whole)]

def ofJson? (j : Json) : Option Condition := do
  let [os, lang, dateRange, rollout] ← j.slots form | none
  return {
    os := ← Json.optional (Json.list? Os.ofJson?) os
    lang := ← Json.optional (Json.list? Json.string?) lang
    dateRange := ← Json.optional DateRange.ofJson? dateRange
    rollout := ← Json.optional Rollout.ofJson? rollout }

end Condition

end DeepLink
