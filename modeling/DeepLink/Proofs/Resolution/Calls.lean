import DeepLink.Resolution.Basic
import Mathlib.Tactic.Common

namespace DeepLink

namespace Options

variable (o : Options) (env : Environment)

def sink : Sink := if o.navigator.isSome then .injected else .host

def answer : Navigator := o.navigator.getD env.navigator

def provokes (call : Call) : List Signal := if o.navigator.isSome then o.sets call else env.sets call

def call (earlier : Nat) (url : String) : Call := ⟨earlier, url, o.mode⟩

def navigation (earlier : Nat) (url : String) : Navigation :=
  ⟨o.sink, url, o.mode, o.answer env (o.call earlier url)⟩

end Options

def calls (log : List (Nat × Entry)) : List (Nat × Navigation) :=
  log.filterMap fun x => x.2.navigation?.map (x.1, ·)

theorem calls_append (xs ys : List (Nat × Entry)) : calls (xs ++ ys) = calls xs ++ calls ys :=
  List.filterMap_append

theorem calls_signals (events : List Event) :
    calls (events.map fun e => (e.time, .signal e.signal)) = [] := by
  simp [calls, Entry.navigation?]

namespace Run

def calls (x : Run) : List (Nat × Navigation) := DeepLink.calls x.log

def navigations (x : Run) : List Navigation := x.calls.map (·.2)

end Run

namespace Scene

variable (s : Scene) (o : Options) (env : Environment)

theorem navigations_eq_calls : s.navigations = (calls s.log).map (·.2) := by
  rw [navigations, calls, List.map_filterMap]
  congr 1
  funext x
  cases x.2.navigation? <;> rfl

theorem calls_note (e : Entry) :
    calls (s.note e).log = calls s.log ++ (e.navigation?.map (s.clock, ·)).toList := by
  rw [note, calls_append]
  cases h : e.navigation? <;> simp [calls, h]

theorem calls_advance (time : Nat) : calls (s.advance time).log = calls s.log := by
  rw [advance, calls_append, calls_signals, List.append_nil]

theorem calls_finish : calls s.finish.log = calls s.log := by
  rw [finish, calls_append, calls_signals, List.append_nil]

theorem tell_some (hook : Hook) (e : Entry) : s.tell (some hook) e = s.note e := by
  obtain ⟨throws⟩ := hook
  cases throws <;> rfl

theorem tell_eq (hook : Option Hook) (e : Entry) : s.tell hook e = s ∨ s.tell hook e = s.note e := by
  cases hook with
  | none => exact .inl rfl
  | some hook => exact .inr (s.tell_some hook e)

theorem calls_tell {hook : Option Hook} {e : Entry} (h : e.navigation? = none) :
    calls (s.tell hook e).log = calls s.log := by
  rcases s.tell_eq hook e with ht | ht
  · rw [ht]
  · rw [ht, calls_note, h]
    exact List.append_nil _

theorem tell_clock (hook : Option Hook) (e : Entry) : (s.tell hook e).clock = s.clock := by
  rcases s.tell_eq hook e with h | h <;> rw [h]; rfl

theorem tell_channel (hook : Option Hook) (e : Entry) : (s.tell hook e).channel = s.channel := by
  rcases s.tell_eq hook e with h | h <;> rw [h]; rfl

theorem tell_ahead (hook : Option Hook) (e : Entry) : (s.tell hook e).ahead = s.ahead := by
  rcases s.tell_eq hook e with h | h <;> rw [h]; rfl

def called (url : String) : Scene where
  clock := s.clock
  channel := s.channel.applyAll (o.provokes env (o.call s.navigations.length url))
  ahead := s.ahead
  log := s.log ++ [(s.clock, .navigate (o.navigation env s.navigations.length url))]

theorem navigate_eq (url : String) : s.navigate o env url =
    (o.answer env (o.call s.navigations.length url), s.called o env url) := by
  cases h : o.navigator <;>
    simp [navigate, called, note, Options.call, Options.navigation, Options.sink, Options.answer,
      Options.provokes, h]

theorem navigations_called (url : String) :
    (s.called o env url).navigations = s.navigations ++ [o.navigation env s.navigations.length url] := by
  rw [called, navigations, List.filterMap_append]
  rfl

theorem calls_called (url : String) : calls (s.called o env url).log =
    calls s.log ++ [(s.clock, o.navigation env (calls s.log).length url)] := by
  rw [called, calls_append, navigations_eq_calls, List.length_map]
  rfl

end Scene

def Resolved.answered (r : Resolved) (used : Used) : Option Refusal → Resolved
  | none => { r with used := used }
  | some refusal => { r with used := .nothing, error := some refusal }

theorem Scene.goTo_eq (s : Scene) (o : Options) (env : Environment) (r : Resolved) (url : String)
    (used : Used) : s.goTo o env r url used =
      (some (r.answered used (o.answer env (o.call s.navigations.length url))), s.called o env url) := by
  rw [goTo, navigate_eq]
  cases o.answer env (o.call s.navigations.length url) <;> rfl

def Options.document (o : Options) (env : Environment) : Except ResolveError Document :=
  match o.loader.load (o.id.getD (idOf env.url)) with
  | .error e => .error (.load e)
  | .ok raw =>
    match Document.ofJson raw with
    | .error e => .error (.invalid e)
    | .ok d => .ok d

def Document.untried (d : Document) (ctx : Context) : Resolved where
  evaluation := d.evaluate ctx
  links := (d.evaluate ctx).links
  used := .nothing
  error := none

namespace Scene

theorem untried_of_undecided {o : Options} {env : Environment} {draw : Nat} {raw : Json} {base : Resolved}
    (h : undecided o env draw raw = .ok base) :
    ∃ d, Document.ofJson raw = .ok d ∧ d.untried (detect o.overrides env draw) = base := by
  unfold undecided at h
  split at h
  · simp at h
  · next d hd => exact ⟨d, hd, Except.ok.inj h⟩

theorem undecided_eq_ok {o : Options} {env : Environment} {draw : Nat} {raw : Json} {base : Resolved}
    (h : undecided o env draw raw = .ok base) : ∃ d, Document.ofJson raw = .ok d ∧
      base.evaluation = d.evaluate (detect o.overrides env draw) ∧
      base.links = base.evaluation.links ∧ base.used = .nothing ∧ base.error = none := by
  obtain ⟨d, hd, rfl⟩ := untried_of_undecided h
  exact ⟨d, hd, rfl, rfl, rfl, rfl⟩

def loaded (o : Options) (env : Environment) (channel : Channel) (events : List Event) : Scene :=
  (note { channel, ahead := events } (.load (o.id.getD (idOf env.url)))).advance
    (afterWait 0 o.loader.delay)

theorem calls_loaded (o : Options) (env : Environment) (channel : Channel) (events : List Event) :
    calls (loaded o env channel events).log = [] := by
  rw [loaded, calls_advance, calls_note]
  rfl

def ready (o : Options) (env : Environment) (channel : Channel) (events : List Event) (base : Resolved) : Scene :=
  (loaded o env channel events).tell o.before (.before base)

section

variable (o : Options) (env : Environment) (channel : Channel) (events : List Event) (base : Resolved)

theorem ready_clock : (ready o env channel events base).clock = afterWait 0 o.loader.delay := tell_clock _ _ _

theorem ready_channel : (ready o env channel events base).channel = (loaded o env channel events).channel :=
  tell_channel _ _ _

theorem ready_ahead : (ready o env channel events base).ahead = (loaded o env channel events).ahead :=
  tell_ahead _ _ _

theorem calls_ready : calls (ready o env channel events base).log = [] := by
  rw [ready, calls_tell _ rfl, calls_loaded]

theorem navigations_ready : (ready o env channel events base).navigations = [] := by
  rw [navigations_eq_calls, calls_ready]
  rfl

end

theorem deliver_fst (o : Options) (y : Option Resolved × Scene) : (deliver o y).1 = y.1.elim .overflow .ok := by
  obtain ⟨_ | r, s⟩ := y <;> rfl

theorem deliver_clock (o : Options) (y : Option Resolved × Scene) : (deliver o y).2.clock = y.2.clock := by
  obtain ⟨_ | r, s⟩ := y
  · rfl
  · exact tell_clock _ _ _

theorem deliver_ahead (o : Options) (y : Option Resolved × Scene) : (deliver o y).2.ahead = y.2.ahead := by
  obtain ⟨_ | r, s⟩ := y
  · rfl
  · exact tell_ahead _ _ _

theorem calls_deliver (o : Options) (y : Option Resolved × Scene) : calls (deliver o y).2.log = calls y.2.log := by
  obtain ⟨_ | r, s⟩ := y
  · rfl
  · exact calls_tell _ rfl

theorem resolve_eq (o : Options) (env : Environment) (draw : Nat) (channel : Channel) (events : List Event) :
    resolve { channel, ahead := events } o env draw =
      match o.document env with
      | .error e => (.error e, loaded o env channel events)
      | .ok d =>
        let base := d.untried (detect o.overrides env draw)
        deliver o ((ready o env channel events base).execute o env base) := by
  unfold resolve Options.document undecided
  dsimp only
  cases o.loader.load (o.id.getD (idOf env.url)) with
  | error e => rfl
  | ok raw =>
    dsimp only
    cases Document.ofJson raw <;> rfl

end Scene

theorem run_of_document {o : Options} {env : Environment} {d : Document} (h : o.document env = .ok d) (draw : Nat)
    (channel : Channel) (events : List Event) :
    let x := run o env draw channel events
    let base := d.untried (detect o.overrides env draw)
    let y := (Scene.ready o env channel events base).execute o env base
    x.outcome = y.1.elim .overflow .ok ∧ x.elapsed = y.2.clock ∧ x.calls = calls y.2.log := by
  dsimp only [run, Run.calls]
  rw [Scene.resolve_eq, h]
  refine ⟨Scene.deliver_fst _ _, Scene.deliver_clock _ _, ?_⟩
  rw [Scene.calls_finish, Scene.calls_deliver]

theorem document_of_decided {o : Options} {env : Environment} {draw : Nat} {raw : Json} {base : Resolved}
    (load : o.loader.load (o.id.getD (idOf env.url)) = .ok raw)
    (decided : Scene.undecided o env draw raw = .ok base) :
    ∃ d, o.document env = .ok d ∧ d.untried (detect o.overrides env draw) = base := by
  obtain ⟨d, read, same⟩ := Scene.untried_of_undecided decided
  refine ⟨d, ?_, same⟩
  simp only [Options.document, load, read]

theorem run_of_decided {o : Options} {env : Environment} {draw : Nat} {raw : Json} {base : Resolved}
    (channel : Channel) (events : List Event)
    (load : o.loader.load (o.id.getD (idOf env.url)) = .ok raw)
    (decided : Scene.undecided o env draw raw = .ok base) :
    let x := run o env draw channel events
    let y := (Scene.ready o env channel events base).execute o env base
    x.outcome = y.1.elim .overflow .ok ∧ x.elapsed = y.2.clock ∧ x.calls = calls y.2.log := by
  obtain ⟨d, document, rfl⟩ := document_of_decided load decided
  exact run_of_document document draw channel events

theorem document_of_run {o : Options} {env : Environment} {draw : Nat} {channel : Channel} {events : List Event}
    {r : Resolved} (h : (run o env draw channel events).outcome = .ok r) : ∃ d, o.document env = .ok d := by
  rw [run, Scene.resolve_eq] at h
  cases document : o.document env with
  | error e =>
    rw [document] at h
    cases h
  | ok d => exact ⟨d, rfl⟩

end DeepLink
