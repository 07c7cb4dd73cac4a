import DeepLink.Routing.Evaluation

namespace DeepLink

namespace Evaluation

def indexJson (index : Option Nat) : Json :=
  .number (.integer (match index with
    | some i => i
    | none => -1))

def toJson (e : Evaluation) : Json :=
  .record
    [("os", some e.os.toJson), ("lang", some (.string e.lang)), ("nowISO", some (.string e.now)),
      ("matchedRuleIndex", some (indexJson e.index)), ("reason", e.reason.map .string),
      ("target", some e.target.toJson)]

def signedIndex (e : Evaluation) : Int :=
  match e.index with
  | some i => if i < 0x8000000000000000 then i else -1
  | none => -1

def summary (e : Evaluation) : String :=
  let reason := match e.reason with
    | some r => s!" [{r}]"
    | none => ""
  s!"{e.os.name} ({e.lang}) -> rule {e.signedIndex}" ++ reason

end Evaluation

def Outcome.text : Outcome → String
  | .matched => "matched"
  | .rejected part => "rejected:" ++ part.name
  | .notReached => "not-reached"

namespace Report

def rejections (r : Report) : List String :=
  r.outcomes.zipIdx.filterMap fun (outcome, i) =>
    match outcome with
    | .rejected part => some s!"{i}:{part.name}"
    | _ => none

def summary (r : Report) : String :=
  let rejected := String.intercalate ", " r.rejections
  s!"matched: {r.evaluation.signedIndex}, rejected: [{rejected}]"

end Report

end DeepLink
