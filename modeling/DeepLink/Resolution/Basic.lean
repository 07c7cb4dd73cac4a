import DeepLink.Resolution.Race
import DeepLink.Routing.Printing
import DeepLink.Rules.Check
import DeepLink.Url.Query

namespace DeepLink

inductive ResolveError where
  | load (error : LoadError)
  | invalid (error : Invalid)
deriving DecidableEq, Repr

def ResolveError.message : ResolveError → String
  | load error => error.message
  | invalid error => error.message

/-- What a resolution comes to. An overflow is not returned: it stops the resolution where it is. -/
inductive Result where
  | ok (result : Resolved)
  | error (error : ResolveError)
  | overflow
deriving DecidableEq, Repr

def Result.resolved? : Result → Option Resolved
  | ok r => some r
  | _ => none

def defaultId : String := "default"

def idOf (page : Option String) : String :=
  (page.bind fun url =>
    match Url.parse url with
    | .ok u => u.parameter? "id"
    | .error _ => none).getD defaultId

namespace Scene

def execute (s : Scene) (o : Options) (env : Environment) (r : Resolved) : Option Resolved × Scene :=
  if o.navigator.isNone && !env.surface then (some r, s)
  else
    let page : Option Resolved × Scene := match r.links.web, r.links.fallback with
      | some web, _ => s.goTo o env r web .web
      | none, some fallback => s.goTo o env r fallback .fallback
      | none, none => (some r, s)
    if r.evaluation.os = .desktop ∧ o.preferWeb ∧ r.links.web.isSome then page
    else match r.links.deepLink with
      | some deepLink => s.race o env r deepLink
      | none => page

def undecided (o : Options) (env : Environment) (draw : Nat) (raw : Json) : Except Invalid Resolved :=
  match Document.ofJson raw with
  | .error e => .error e
  | .ok d =>
    let evaluation := d.evaluate (detect o.overrides env draw)
    .ok { evaluation, links := evaluation.links }

def deliver (o : Options) : Option Resolved × Scene → Result × Scene
  | (some r, s) => (.ok r, s.tell o.after (.after r))
  | (none, s) => (.overflow, s)

def resolve (s : Scene) (o : Options) (env : Environment) (draw : Nat) : Result × Scene :=
  let id := o.id.getD (idOf env.url)
  let s := (s.note (.load id)).advance (afterWait s.clock o.loader.delay)
  match o.loader.load id with
  | .error e => (.error (.load e), s)
  | .ok raw =>
    match undecided o env draw raw with
    | .error e => (.error (.invalid e), s)
    | .ok base =>
      deliver o ((s.tell o.before (.before base)).execute o env base)

end Scene

structure Run where
  outcome : Result
  elapsed : Nat
  log : List (Nat × Entry)
  channel : Channel

def run (o : Options) (env : Environment) (draw : Nat) (channel : Channel) (events : List Event) : Run :=
  let (outcome, s) := Scene.resolve { channel, ahead := events } o env draw
  ⟨outcome, s.clock, s.finish.log, s.finish.channel⟩

namespace Resolved

def toJson (r : Resolved) : Json :=
  let link (l : Option String) : Option Json := some (l.elim .null .string)
  .record
    [("evaluation", some r.evaluation.toJson), ("deeplink", link r.links.deepLink),
      ("web", link r.links.web), ("fallback", link r.links.fallback),
      ("used", some (.string r.used.name)), ("error", r.error.map fun e => .string e.message)]

def text (r : Resolved) : String := r.toJson.render

end Resolved

end DeepLink
