import DeepLink.Proofs.Json.Record
import DeepLink.Rules.Document
import Mathlib.Data.List.Forall2

namespace DeepLink

namespace Json

variable {α : Type} (reads : Json → α → Prop)

inductive Optional : Option Json → Option α → Prop where
  | absent : Optional none none
  | null : Optional (some null) none
  | present {v : Json} {x : α} (some_value : v ≠ null) (read : reads v x) : Optional (some v) (some x)

inductive Items : Json → List α → Prop where
  | items {vs : List Json} {xs : List α} (each : List.Forall₂ reads vs xs) : Items (array vs) xs

inductive IsString : Json → String → Prop where
  | string (s : String) : IsString (string s) s

def IsObject (v : Json) : Prop := ∃ members, v = object members

def Linked (name other : String) (v : Json) (link : Option String) : Prop :=
  v.member? other = none ∧ Optional IsString (v.member? name) link ∨
    v.member? name = none ∧ Optional IsString (v.member? other) link

end Json

inductive Os.Named : Json → Os → Prop where
  | name (os : Os) : Named (.string os.name) os

inductive Instant.Stamped : Json → Instant → Prop where
  | stamp {s : String} {t : Instant} (standard : Instant.strict? s = some t) : Stamped (.string s) t

structure DateRange.Reads (v : Json) (r : DateRange) : Prop where
  object : v.IsObject
  start : Json.Optional Instant.Stamped (v.member? "start") r.start
  finish : Json.Optional Instant.Stamped (v.member? "end") r.finish

inductive Rollout.Reads : Json → Rollout → Prop where
  | number (n : Json.Number) : Reads (.number n) ⟨n.toBinary, none⟩
  | object {members : List (String × Json)} {n : Json.Number} {seed : Option String}
      (share : Json.find? "percentage" members = some (.number n))
      (seeded : Json.Optional Json.IsString (Json.find? "seed" members) seed) :
      Reads (.object members) ⟨n.toBinary, seed⟩

structure Condition.Reads (v : Json) (c : Condition) : Prop where
  object : v.IsObject
  os : Json.Optional (Json.Items Os.Named) (v.member? "os") c.os
  lang : Json.Optional (Json.Items Json.IsString) (v.member? "lang") c.lang
  dateRange : Json.Optional DateRange.Reads (v.member? "dateRange") c.dateRange
  rollout : Json.Optional Rollout.Reads (v.member? "rollout") c.rollout

structure Target.Reads (v : Json) (t : Target) : Prop where
  object : v.IsObject
  ios : Json.Linked "ios" "deepLinkIOS" v t.ios
  android : Json.Linked "android" "deepLinkAndroid" v t.android
  web : Json.Optional Json.IsString (v.member? "web") t.web
  fallback : Json.Optional Json.IsString (v.member? "fallback") t.fallback

structure Rule.Reads (v : Json) (r : Rule) : Prop where
  object : v.IsObject
  target : ∃ target ∈ v.member? "target", Target.Reads target r.target
  reason : Json.Optional Json.IsString (v.member? "reason") r.reason
  condition : Json.Optional Condition.Reads (v.member? "if") r.condition

structure DefaultRule.Reads (v : Json) (r : DefaultRule) : Prop where
  object : v.IsObject
  target : ∃ target ∈ v.member? "target", Target.Reads target r.target
  reason : Json.Optional Json.IsString (v.member? "reason") r.reason

structure Meta.Reads (v : Json) (m : Meta) : Prop where
  object : v.IsObject
  version : Json.Optional Json.IsString (v.member? "version") m.version
  generatedAt : Json.Optional Instant.Stamped (v.member? "generatedAt") m.generatedAt

structure Document.Reads (v : Json) (d : Document) : Prop where
  object : v.IsObject
  rules : v.member? "rules" = none ∧ d.rules = [] ∨ ∃ rules ∈ v.member? "rules", Json.Items Rule.Reads rules d.rules
  default : Json.Optional DefaultRule.Reads (v.member? "default") d.default
  info : Json.Optional Meta.Reads (v.member? "meta") d.info

end DeepLink
