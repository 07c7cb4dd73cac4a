import DeepLink.Files.Loader
import DeepLink.Json.Printer
import DeepLink.Toml.Parser
import DeepLink.Visitor.Environment

namespace DeepLink

structure Settings where
  timeout : Nat := 1200
  preferWeb : Bool := true
  mode : Mode := .assign
  rulesDir : Option String := none
deriving DecidableEq, Repr

inductive SettingsError where
  | io (fault : Files.Fault)
  | notToml
  | noTimeout
deriving DecidableEq, Repr

namespace Settings

def toJson (s : Settings) : Json :=
  .record
    [("timeout_ms", some (.number (.integer s.timeout))), ("prefer_web_on_desktop", some (.bool s.preferWeb)),
      ("navigation", some s.mode.toJson), ("rules_dir", s.rulesDir.map .string)]

def form : Json.Form :=
  .record
    [(["timeout_ms"], .whole), (["prefer_web_on_desktop"], .whole), (["navigation"], .whole),
      (["rules_dir"], .whole)]

def ofJson? (j : Json) : Option Settings := do
  let [timeout, preferWeb, mode, rulesDir] ← j.slots form | none
  return {
    timeout := ← Json.withDefault 1200 Json.word? timeout
    preferWeb := ← Json.withDefault true Json.bool? preferWeb
    mode := ← Json.withDefault .assign Mode.ofJson? mode
    rulesDir := ← Json.optional Json.string? rulesDir }

open Toml (Value)

def natural? : Value → Option Nat
  | .integer i => if 0 ≤ i then some i.toNat else none
  | _ => none

def boolean? : Value → Option Bool
  | .boolean b => some b
  | _ => none

def text? : Value → Option String
  | .string s => some s
  | _ => none

def isEmpty : Value → Bool
  | .table _ entries => entries.isEmpty
  | .array items => items.isEmpty
  | _ => false

def mode? : Value → Option Mode
  | .string s => Mode.ofName? s
  | .table _ [(name, v)] => if isEmpty v then Mode.ofName? name else none
  | _ => none

def field {α : Type} (name : String) (default : α) (read : Value → Option α) (entries : Toml.Entries) :
    Option α :=
  match Toml.get? name entries with
  | none => some default
  | some v => read v

def ofEntries? (entries : Toml.Entries) : Option Settings := do
  return {
    timeout := ← field "timeout_ms" 1200 natural? entries
    preferWeb := ← field "prefer_web_on_desktop" true boolean? entries
    mode := ← field "navigation" .assign mode? entries
    rulesDir := ← field "rules_dir" none (fun v => (text? v).map some) entries }

def ofToml (text : String) : Except SettingsError Settings :=
  match (Toml.parse text).bind ofEntries? with
  | none => .error .notToml
  | some s => if s.timeout = 0 then .error .noTimeout else .ok s

def ofFile (root : Files.Node) (path : String) : Except SettingsError Settings :=
  match root.read path with
  | .error fault => .error (.io fault)
  | .ok text => ofToml text

end Settings

def SettingsError.message : SettingsError → String
  | io fault => s!"failed to read settings: {fault.message}"
  | notToml => "invalid settings TOML"
  | noTimeout => "invalid settings: timeout_ms must be greater than zero"

end DeepLink
