import DeepLink.Resolution.Channel
import DeepLink.Resolution.Options
import DeepLink.Routing.Links

namespace DeepLink

inductive Used where
  | deepLink | web | fallback | nothing
deriving DecidableEq, Repr

def Used.name : Used → String
  | deepLink => "deeplink"
  | web => "web"
  | fallback => "fallback"
  | nothing => "none"

structure Resolved where
  evaluation : Evaluation
  links : Links
  used : Used := .nothing
  error : Option Refusal := none
deriving DecidableEq, Repr

inductive Sink where
  | host | injected
deriving DecidableEq, Repr

structure Navigation where
  sink : Sink
  url : String
  mode : Mode
  refusal : Option Refusal
deriving DecidableEq, Repr

inductive Entry where
  | load (id : String)
  | before (result : Resolved)
  | after (result : Resolved)
  | navigate (navigation : Navigation)
  | signal (s : Signal)
deriving DecidableEq, Repr

def Entry.navigation? : Entry → Option Navigation
  | navigate n => some n
  | _ => none

-- thirty years in milliseconds
def longestWait : Nat := 30 * 365 * 86400000

/-- The time at which a wait ends. A longer one than the longest ends with it. -/
def afterWait (start wait : Nat) : Nat := start + min wait longestWait

theorem le_afterWait (start wait : Nat) : start ≤ afterWait start wait := Nat.le_add_right _ _

structure Scene where
  clock : Nat := 0
  channel : Channel
  ahead : List Event
  log : List (Nat × Entry) := []
deriving DecidableEq, Repr

namespace Scene

def navigations (s : Scene) : List Navigation := s.log.filterMap (·.2.navigation?)

def note (s : Scene) (e : Entry) : Scene := { s with log := s.log ++ [(s.clock, e)] }

def advance (s : Scene) (time : Nat) : Scene where
  clock := time
  channel := s.channel.applyAll ((s.ahead.takeWhile (·.time ≤ time)).map (·.signal))
  ahead := s.ahead.dropWhile (·.time ≤ time)
  log := s.log ++ (s.ahead.takeWhile (·.time ≤ time)).map fun e => (e.time, .signal e.signal)

def finish (s : Scene) : Scene where
  clock := s.clock
  channel := s.channel.applyAll (s.ahead.map (·.signal))
  ahead := []
  log := s.log ++ s.ahead.map fun e => (e.time, .signal e.signal)

theorem navigations_advance (s : Scene) (time : Nat) : (s.advance time).navigations = s.navigations := by
  simp [navigations, advance, Entry.navigation?]

def hear (hook : Hook) (entry : Entry) : ExceptT Unit (StateM Scene) Unit := do
  modify (·.note entry)
  if hook.throws then throw ()

/-- Tells a hook, if there is one, of a result. What it throws goes no further; what it did is done. -/
def tell (s : Scene) (hook : Option Hook) (entry : Entry) : Scene :=
  match hook with
  | none => s
  | some hook => ((tryCatch (hear hook entry) fun _ => pure ()).run s).2

def navigate (s : Scene) (o : Options) (env : Environment) (url : String) : Option Refusal × Scene :=
  let call : Call := ⟨s.navigations.length, url, o.mode⟩
  let (sink, navigator, sets) : Sink × Navigator × (Call → List Signal) := match o.navigator with
    | some navigator => (.injected, navigator, o.sets)
    | none => (.host, env.navigator, env.sets)
  let s := s.note (.navigate ⟨sink, url, o.mode, navigator call⟩)
  -- either navigator may make the host report something at once
  (navigator call, { s with channel := s.channel.applyAll (sets call) })

end Scene

end DeepLink
