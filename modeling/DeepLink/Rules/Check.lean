import DeepLink.Json.Parser
import DeepLink.Rules.Document
import DeepLink.Rules.Issue
import DeepLink.Rules.Shape
import DeepLink.Text.Blank
import DeepLink.Url.Basic

namespace DeepLink

def issuesOf {α : Type} (path : Path) (check : Path → α → List Issue) (xs : List α) : List Issue :=
  (xs.mapIdx fun i x => check (path ++ [.index i]) x).flatten

namespace Target

def issues (path : Path) (t : Target) : List Issue :=
  t.links.filterMap fun (name, uri) =>
    match Url.parse uri with
    | .ok _ => none
    | .error fault => some ⟨path ++ [.key name], .badUri uri fault⟩

end Target

namespace Condition

def tagIssues (path : Path) (tag : String) : List Issue :=
  if Text.allBlank tag then [⟨path, .emptyTag⟩] else []

def rangeIssues (path : Path) (r : DateRange) : List Issue :=
  match r.start, r.finish with
  | some start, some finish => if start ≤ finish then [] else [⟨path, .reversed⟩]
  | _, _ => []

def rolloutIssues (path : Path) (r : Rollout) : List Issue :=
  if r.percentage.within 0 100 then [] else [⟨path, .percentage r.percentage⟩]

def issues (path : Path) (c : Condition) : List Issue :=
  issuesOf (path ++ [.key "lang"]) tagIssues (c.lang.getD []) ++
    c.dateRange.elim [] (rangeIssues (path ++ [.key "dateRange"])) ++
    c.rollout.elim [] (rolloutIssues (path ++ [.key "rollout"]))

end Condition

namespace Rule

def issues (path : Path) (r : Rule) : List Issue :=
  r.target.issues (path ++ [.key "target"]) ++ r.condition.elim [] (Condition.issues (path ++ [.key "if"]))

end Rule

namespace Document

def issues (d : Document) : List Issue :=
  (if d.rules.isEmpty && d.default.isNone then [⟨[.key "rules"], .noRule⟩] else []) ++
    issuesOf [.key "rules"] Rule.issues d.rules ++
    d.default.elim [] fun r => r.target.issues [.key "default", .key "target"]

def check (d : Document) : Except Invalid Document :=
  if d.issues.isEmpty then .ok d else .error (.issues d.issues)

def ofJson (raw : Json) : Except Invalid Document :=
  let raw := raw.canonical
  match Shape.document raw with
  | [] =>
    match ofJson? raw with
    | some d => d.check
    | none => .error (.issues [⟨[], .unreadable⟩])
  | found => .error (.issues found)

def ofText (text : String) : Except Invalid Document :=
  match Json.parse text with
  | .ok raw => ofJson raw
  | .error e => .error (.notJson e)

end Document

end DeepLink
