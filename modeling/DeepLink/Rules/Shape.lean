import DeepLink.Json.Basic
import DeepLink.Rules.Issue
import DeepLink.Rules.Os
import DeepLink.Time.Stamp

/-!
The form of a rule document: every field that is present must be of its kind. All that is wrong is
reported, in the order of the fields.
-/

namespace DeepLink.Shape

def field (path : Path) (name : String) (check : Path → Json → List Issue) (parent : Json) : List Issue :=
  match parent.member? name with
  | none => []
  | some .null => []
  | some v => check (path ++ [.key name]) v

def string (path : Path) (v : Json) : List Issue :=
  match v with
  | .string _ => []
  | _ => [⟨path, .notString⟩]

def stamp (path : Path) (v : Json) : List Issue :=
  match v with
  | .string s => if (Instant.strict? s).isSome then [] else [⟨path, .badStamp s⟩]
  | _ => [⟨path, .notStamp⟩]

def osName (path : Path) (v : Json) : List Issue :=
  match v with
  | .string s => if (Os.ofName? s).isSome then [] else [⟨path, .notOs⟩]
  | _ => [⟨path, .notOs⟩]

def items (check : Path → Json → List Issue) (path : Path) (vs : List Json) : List Issue :=
  (vs.mapIdx fun i v => check (path ++ [.index i]) v).flatten

def array (check : Path → Json → List Issue) (path : Path) (v : Json) : List Issue :=
  match v with
  | .array vs => items check path vs
  | _ => [⟨path, .notArray⟩]

def object (check : Path → Json → List Issue) (path : Path) (v : Json) : List Issue :=
  match v with
  | .object _ => check path v
  | _ => [⟨path, .notObject⟩]

def link (path : Path) (name other : String) (target : Json) : List Issue :=
  field path name string target ++ field path other string target ++
    if (target.member? name).isSome && (target.member? other).isSome then
      [⟨path ++ [.key other], .duplicate name⟩]
    else []

def target (path : Path) (v : Json) : List Issue :=
  link path "ios" "deepLinkIOS" v ++ link path "android" "deepLinkAndroid" v ++
    field path "web" string v ++ field path "fallback" string v

def targetField (path : Path) (parent : Json) : List Issue :=
  match parent.member? "target" with
  | none => [⟨path ++ [.key "target"], .missing⟩]
  | some v => object target (path ++ [.key "target"]) v

def dateRange (path : Path) (v : Json) : List Issue :=
  field path "start" stamp v ++ field path "end" stamp v

def rollout (path : Path) (v : Json) : List Issue :=
  match v with
  | .number _ => []
  | .object _ =>
    (match v.member? "percentage" with
      | some (.number _) => []
      | _ => [⟨path ++ [.key "percentage"], .notNumber⟩]) ++
      field path "seed" string v
  | _ => [⟨path, .notRollout⟩]

def condition (path : Path) (v : Json) : List Issue :=
  field path "os" (array osName) v ++ field path "lang" (array string) v ++
    field path "dateRange" (object dateRange) v ++ field path "rollout" rollout v

def rule (path : Path) (v : Json) : List Issue :=
  targetField path v ++ field path "reason" string v ++ field path "if" (object condition) v

def defaultRule (path : Path) (v : Json) : List Issue :=
  targetField path v ++ field path "reason" string v

def info (path : Path) (v : Json) : List Issue :=
  field path "version" string v ++ field path "generatedAt" stamp v

def rules (v : Json) : List Issue :=
  match v.member? "rules" with
  | none => []
  | some rules => array (object rule) [.key "rules"] rules

def document (v : Json) : List Issue :=
  object (fun _ v => rules v ++ field [] "default" (object defaultRule) v ++
    field [] "meta" (object info) v) [] v

end DeepLink.Shape
