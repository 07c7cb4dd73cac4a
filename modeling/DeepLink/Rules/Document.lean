import DeepLink.Json.Printer
import DeepLink.Rules.Condition
import DeepLink.Rules.Target

namespace DeepLink

structure Rule where
  condition : Option Condition := none
  target : Target
  reason : Option String := none
deriving DecidableEq, Repr

structure DefaultRule where
  target : Target
  reason : Option String := none
deriving DecidableEq, Repr

structure Meta where
  version : Option String := none
  generatedAt : Option Instant := none
deriving DecidableEq, Repr

structure Document where
  rules : List Rule := []
  default : Option DefaultRule := none
  info : Option Meta := none
deriving DecidableEq, Repr

namespace Rule

def toJson (r : Rule) : Json :=
  .record
    [("if", r.condition.map Condition.toJson), ("target", some r.target.toJson),
      ("reason", r.reason.map .string)]

def form : Json.Form := .record [(["if"], Condition.form), (["target"], Target.form), (["reason"], .whole)]

def ofJson? (j : Json) : Option Rule := do
  let [condition, target, reason] ← j.slots form | none
  return {
    condition := ← Json.optional Condition.ofJson? condition
    target := ← Json.required Target.ofJson? target
    reason := ← Json.optional Json.string? reason }

end Rule

namespace DefaultRule

def toJson (r : DefaultRule) : Json :=
  .record [("target", some r.target.toJson), ("reason", r.reason.map .string)]

def form : Json.Form := .record [(["target"], Target.form), (["reason"], .whole)]

def ofJson? (j : Json) : Option DefaultRule := do
  let [target, reason] ← j.slots form | none
  return {
    target := ← Json.required Target.ofJson? target
    reason := ← Json.optional Json.string? reason }

end DefaultRule

namespace Meta

def toJson (m : Meta) : Json :=
  .record [("version", m.version.map .string), ("generatedAt", m.generatedAt.map Instant.toJson)]

def form : Json.Form := .record [(["version"], .whole), (["generatedAt"], .whole)]

def ofJson? (j : Json) : Option Meta := do
  let [version, generatedAt] ← j.slots form | none
  return {
    version := ← Json.optional Json.string? version
    generatedAt := ← Json.optional Instant.ofJson? generatedAt }

end Meta

namespace Document

def toJson (d : Document) : Json :=
  .record
    [("rules", some (.ofList Rule.toJson d.rules)), ("default", d.default.map DefaultRule.toJson),
      ("meta", d.info.map Meta.toJson)]

def form : Json.Form :=
  .record [(["rules"], .items Rule.form), (["default"], DefaultRule.form), (["meta"], Meta.form)]

def ofJson? (j : Json) : Option Document := do
  let [rules, fallback, info] ← j.slots form | none
  return {
    rules := ← Json.withDefault [] (Json.list? Rule.ofJson?) rules
    default := ← Json.optional DefaultRule.ofJson? fallback
    info := ← Json.optional Meta.ofJson? info }

def text (d : Document) : String := d.toJson.render

def summary (d : Document) : String :=
  let default := if d.default.isSome then "yes" else "no"
  let version := match d.info.bind Meta.version with
    | some v => s!" v{v}"
    | none => ""
  s!"RuleDocument({d.rules.length} rules, default: {default})" ++ version

end Document

end DeepLink
