import DeepLink.Routing.Context
import DeepLink.Rules.Document

namespace DeepLink

inductive Part where
  | os | lang | dateRange | rollout
deriving DecidableEq, Repr

def Part.name : Part → String
  | os => "os"
  | lang => "lang"
  | dateRange => "dateRange"
  | rollout => "rollout"

def Part.all : List Part := [.os, .lang, .dateRange, .rollout]

namespace Condition

def rejection (c : Condition) (ctx : Context) : Option Part :=
  if c.os.any (fun names => !names.contains ctx.os) then some .os
  else if c.lang.any (fun tags => !tags.any (Text.lower · = Text.lower ctx.lang)) then some .lang
  else if c.dateRange.any (fun r => !r.contains ctx.now) then some .dateRange
  else if c.rollout.any (fun r => !r.admits (ctx.bucket r.seed)) then some .rollout
  else none

end Condition

def Rule.rejection (r : Rule) (ctx : Context) : Option Part := r.condition.bind (·.rejection ctx)

def noMatch : String := "no-match"

structure Evaluation where
  os : Os
  lang : String
  now : String
  index : Option Nat
  reason : Option String
  target : Target
deriving DecidableEq, Repr

inductive Outcome where
  | matched
  | rejected (part : Part)
  | notReached
deriving DecidableEq, Repr

namespace Document

def decide (d : Document) (ctx : Context) (index : Option Nat) : Evaluation :=
  let (target, reason) := match index.bind (d.rules[·]?) with
    | some rule => (rule.target, rule.reason)
    | none => match d.default with
      | some rule => (rule.target, rule.reason)
      | none => ({}, some noMatch)
  ⟨ctx.os, ctx.lang, ctx.now.textMillis, index, reason, target⟩

def evaluate (d : Document) (ctx : Context) : Evaluation :=
  d.decide ctx (d.rules.findIdx? fun r => (r.rejection ctx).isNone)

end Document

def outcomes (ctx : Context) : List Rule → List Outcome
  | [] => []
  | r :: rest =>
    match r.rejection ctx with
    | some part => .rejected part :: outcomes ctx rest
    | none => .matched :: rest.map fun _ => .notReached

structure Report where
  evaluation : Evaluation
  outcomes : List Outcome
deriving DecidableEq, Repr

def Document.report (d : Document) (ctx : Context) : Report :=
  let found := outcomes ctx d.rules
  ⟨d.decide ctx (found.idxOf? .matched), found⟩

namespace Report

def rejectedBy (r : Report) (part : Part) : List Nat :=
  (r.outcomes.zipIdx.filter (·.1 = .rejected part)).map (·.2)

end Report

end DeepLink
