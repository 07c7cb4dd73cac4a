import DeepLink.Settings
import DeepLink.Text.Quoted
import DeepLink.Time.Span
import DeepLink.Time.Stamp
import DeepLink.Visitor.Detection

namespace DeepLink

structure Hook where
  throws : Bool := false
deriving DecidableEq, Repr

structure Options where
  loader : Loader
  id : Option String := none
  overrides : Overrides := {}
  timeout : Span := .ofMillis 1200
  preferWeb : Bool := true
  mode : Mode := .assign
  before : Option Hook := none
  after : Option Hook := none
  navigator : Option Navigator := none
  sets : Call → List Signal := fun _ => []

namespace Options

def withSettings (o : Options) (s : Settings) : Options :=
  { o with timeout := .ofMillis s.timeout, preferWeb := s.preferWeb, mode := s.mode }

def option {α : Type} (write : α → String) : Option α → String
  | none => "None"
  | some x => s!"Some({write x})"

def osName : Os → String
  | .iOS => "Ios"
  | .android => "Android"
  | .desktop => "Desktop"

def modeName : Mode → String
  | .assign => "Assign"
  | .replace => "Replace"

def duration (ms : Nat) : String :=
  if ms = 0 then "0ns"
  else if ms < 1000 then s!"{ms}ms"
  else String.ofList ((Decimal.trim ⟨ms, -3⟩).plain ++ ['s'])

def record (name : String) (fields : List String) : String :=
  name ++ " \x7b " ++ String.intercalate ", " fields ++ " \x7d"

def overridesText (o : Overrides) : String :=
  record "ContextOverrides"
    ["os: " ++ option osName o.os, "lang: " ++ option Text.quoted o.lang,
      "now: " ++ option Instant.text o.now, "identity: " ++ option Text.quoted o.identity,
      "rollout_bucket: " ++ option (fun n => s!"{n}") o.bucket]

def text (o : Options) : String :=
  record "ResolveOptions"
    ["id: " ++ option Text.quoted o.id, "overrides: " ++ overridesText o.overrides,
      "timeout: " ++ duration o.timeout.ms, s!"prefer_web_on_desktop: {o.preferWeb}",
      "navigation: " ++ modeName o.mode, s!"navigator: {o.navigator.isSome}", ".."]

end Options

end DeepLink
