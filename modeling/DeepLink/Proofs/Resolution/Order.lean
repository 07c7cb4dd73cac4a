import DeepLink.Proofs.Resolution.Trace

/-!
The order of a resolution: the loader is asked, a hook is told of the decision, links are gone to, and the other hook
is told of what is returned. A loader that fails, or that gives no valid document, ends it at once.
-/

namespace DeepLink

def Hook.throwing (hook : Hook) : Hook := { hook with throws := true }

/-- Where a resolution stops: a deep link is taken, and the timeout and the backstop add up to more than a duration
can be. -/
structure Options.Overflows (o : Options) (env : Environment) (links : Links) : Prop where
  way : o.navigator.isSome ∨ env.surface
  long : longestSpan < o.timeout.ms + backstop.ms
  taken : ∃ deepLink, links.deepLink = some deepLink ∧ o.answer env (o.call 0 deepLink) = none

namespace Scene

variable {s : Scene} {o : Options} {env : Environment} {r : Resolved}

theorem goTo_some (s : Scene) (o : Options) (env : Environment) (r : Resolved) (url : String) (used : Used) :
    ∃ r', (s.goTo o env r url used).1 = some r' := by
  rw [goTo_eq]
  exact ⟨_, rfl⟩

theorem concluded_some (s : Scene) (o : Options) (env : Environment) (r : Resolved) (settled : Nat × Ending) :
    ∃ r', (s.concluded o env r settled).1 = some r' := by
  obtain ⟨time, ending⟩ := settled
  cases ending with
  | hidden => exact ⟨_, rfl⟩
  | backstop => exact ⟨_, rfl⟩
  | timeout url => exact goTo_some _ _ _ _ _ _

theorem race_some {deepLink : String} (fits : o.answer env (o.call s.navigations.length deepLink) = none →
    o.timeout.ms + backstop.ms ≤ longestSpan) : ∃ r', (s.race o env r deepLink).1 = some r' := by
  cases answer : o.answer env (o.call s.navigations.length deepLink) with
  | none =>
    rw [race_of_accepted answer (fits answer)]
    exact concluded_some _ _ _ _ _
  | some refusal =>
    rw [race, navigate_eq, answer]
    dsimp only
    split
    · exact goTo_some _ _ _ _ _ _
    · exact ⟨_, rfl⟩

theorem visit_some (fits : ∀ deepLink, r.links.deepLink = some deepLink →
    o.answer env (o.call s.navigations.length deepLink) = none → o.timeout.ms + backstop.ms ≤ longestSpan) :
    ∃ r', (s.visit o env r).1 = some r' := by
  rw [visit]
  cases link : r.links.deepLink with
  | some deepLink => exact race_some (fits deepLink link)
  | none =>
    cases r.links.web with
    | some web => exact goTo_some _ _ _ _ _ _
    | none =>
      cases r.links.fallback with
      | some fallback => exact goTo_some _ _ _ _ _ _
      | none => exact ⟨_, rfl⟩

theorem execute_some (fresh : s.navigations = []) (links : r.links = r.evaluation.links)
    (h : ¬ o.Overflows env r.links) : ∃ r', (s.execute o env r).1 = some r' := by
  rw [s.execute_eq o env links]
  split
  · exact ⟨r, rfl⟩
  · next passable =>
    apply visit_some
    intro deepLink link accepted
    rw [fresh] at accepted
    have way : o.navigator.isSome ∨ env.surface := by
      cases hn : o.navigator <;> simp_all
    exact Nat.le_of_not_lt fun long => h ⟨way, long, deepLink, link, accepted⟩

theorem execute_of_overflows (fresh : s.navigations = []) (links : r.links = r.evaluation.links)
    (h : o.Overflows env r.links) :
    ∃ deepLink, r.links.deepLink = some deepLink ∧ s.execute o env r = (none, s.called o env deepLink) := by
  obtain ⟨way, long, deepLink, link, accepted⟩ := h
  refine ⟨deepLink, link, ?_⟩
  rw [s.execute_of_way links way, visit, link]
  apply race_of_overflow _ long
  rw [fresh]
  exact accepted

theorem tell_throwing (s : Scene) (hook : Option Hook) (e : Entry) :
    s.tell (hook.map Hook.throwing) e = s.tell hook e := by
  cases hook with
  | none => rfl
  | some hook => rw [Option.map_some, tell_some, tell_some]

theorem acts_loaded (o : Options) (env : Environment) (channel : Channel) (events : List Event) :
    acts (loaded o env channel events).log = [(0, .load (o.id.getD (idOf env.url)))] := by
  rw [loaded, acts_advance, acts_note rfl]
  rfl

theorem acts_ready (o : Options) (env : Environment) (channel : Channel) (events : List Event) (base : Resolved) :
    acts (ready o env channel events base).log = [(0, .load (o.id.getD (idOf env.url)))] ++
      told o.before (afterWait 0 o.loader.delay) (.before base) := by
  rw [ready, acts_tell _ rfl, acts_loaded]
  rfl

theorem acts_deliver (o : Options) (y : Option Resolved × Scene) : acts (deliver o y).2.log =
    acts y.2.log ++ y.1.elim [] fun r => told o.after y.2.clock (.after r) := by
  obtain ⟨_ | r, s⟩ := y
  · exact (List.append_nil _).symm
  · exact acts_tell _ rfl

end Scene

variable (o : Options) (env : Environment) (draw : Nat) (channel : Channel) (events : List Event)

theorem run_of_error {e : ResolveError} (h : o.document env = .error e) :
    let x := run o env draw channel events
    x.outcome = .error e ∧ x.acts = [(0, .load (o.id.getD (idOf env.url)))] := by
  dsimp only [run, Run.acts]
  rw [Scene.resolve_eq, h]
  refine ⟨rfl, ?_⟩
  rw [Scene.acts_finish, Scene.acts_loaded]

section

variable {o env} {d : Document} (document : o.document env = .ok d)
include document

theorem acts_of_document :
    let x := run o env draw channel events
    let base := d.untried (detect o.overrides env draw)
    let y := (Scene.ready o env channel events base).execute o env base
    x.acts = [(0, .load (o.id.getD (idOf env.url)))] ++ told o.before (afterWait 0 o.loader.delay) (.before base) ++
      logged x.calls ++ y.1.elim [] fun r => told o.after x.elapsed (.after r) := by
  intro x base y
  let s := Scene.ready o env channel events base
  obtain ⟨-, elapsed, called⟩ := run_of_document document draw channel events
  obtain ⟨made, grown, made_eq⟩ := (s.execute_pursues o env (r := base) rfl).scene.made
  rw [Scene.calls_ready, List.nil_append] at made_eq
  have acted : x.acts = acts y.2.log ++ y.1.elim [] fun r => told o.after y.2.clock (.after r) := by
    dsimp only [x, run, Run.acts]
    rw [Scene.resolve_eq, document]
    rw [Scene.acts_finish, Scene.acts_deliver]
  -- what comes before the calls is what the scene of the execution has done
  rw [called.trans made_eq, ← Scene.acts_ready o env channel events base, ← grown, elapsed]
  exact acted

theorem run_of_overflows (h : o.Overflows env (d.evaluate (detect o.overrides env draw)).links) :
    let x := run o env draw channel events
    let base := d.untried (detect o.overrides env draw)
    let start := afterWait 0 o.loader.delay
    ∃ deepLink, base.links.deepLink = some deepLink ∧ x.outcome = .overflow ∧ x.elapsed = start ∧
      x.calls = [(start, o.navigation env 0 deepLink)] ∧
      x.acts = [(0, .load (o.id.getD (idOf env.url)))] ++ told o.before start (.before base) ++ logged x.calls := by
  intro x base start
  obtain ⟨outcome, elapsed, called⟩ := run_of_document document draw channel events
  have acted := acts_of_document draw channel events document
  have fresh := Scene.navigations_ready o env channel events base
  obtain ⟨deepLink, link, stopped⟩ := Scene.execute_of_overflows (r := base) fresh rfl h
  dsimp only at outcome elapsed called acted
  rw [stopped] at outcome elapsed called acted
  refine ⟨deepLink, link, outcome, elapsed.trans (Scene.ready_clock _ _ _ _ _), ?_, ?_⟩
  · rw [called, Scene.calls_called, Scene.calls_ready, Scene.ready_clock]
    rfl
  · exact acted.trans (List.append_nil _)

theorem told_around_calls (h : ¬ o.Overflows env (d.evaluate (detect o.overrides env draw)).links) :
    let x := run o env draw channel events
    let base := d.untried (detect o.overrides env draw)
    ∃ r, x.outcome = .ok r ∧ r.evaluation = base.evaluation ∧ r.links = base.links ∧
      x.acts = [(0, .load (o.id.getD (idOf env.url)))] ++ told o.before (afterWait 0 o.loader.delay) (.before base) ++
        logged x.calls ++ told o.after x.elapsed (.after r) := by
  intro x base
  let s := Scene.ready o env channel events base
  obtain ⟨outcome, -, -⟩ := run_of_document document draw channel events
  have acted := acts_of_document draw channel events document
  have fresh := Scene.navigations_ready o env channel events base
  obtain ⟨r, settled⟩ := Scene.execute_some (r := base) fresh rfl h
  obtain ⟨evaluation, links⟩ := (s.execute_pursues o env (r := base) rfl).decided r settled
  dsimp only at outcome acted
  rw [settled] at outcome acted
  exact ⟨r, outcome, evaluation, links, acted⟩

end

theorem run_hooks {before after : Option Hook} (hb : ∀ (s : Scene) e, s.tell before e = s.tell o.before e)
    (ha : ∀ (s : Scene) e, s.tell after e = s.tell o.after e) :
    run { o with before, after } env draw channel events = run o env draw channel events := by
  have document : Options.document { o with before, after } env = o.document env := rfl
  have loaded : Scene.loaded { o with before, after } env channel events = Scene.loaded o env channel events := rfl
  have executed (s : Scene) (r : Resolved) : s.execute { o with before, after } env r = s.execute o env r := rfl
  have delivered (y : Option Resolved × Scene) : Scene.deliver { o with before, after } y = Scene.deliver o y := by
    obtain ⟨_ | r, s⟩ := y
    · rfl
    · rw [Scene.deliver, Scene.deliver, ha]
  simp only [run, Scene.resolve_eq, Scene.ready, document, loaded, executed, delivered, hb]

/-- The loader is asked first, and once. If there is no document, that is all, and the failure is what is returned.
Else a hook is told of the decision, links are gone to, and the other hook is told of what is returned, which is that
decision whatever the calls came to. Only an overflow leaves it at the deep link: then nothing is returned, and the other
hook is not told. What hooks throw changes nothing. -/
theorem resolution_in_order (o : Options) (env : Environment) (draw : Nat) (channel : Channel) (events : List Event) :
    let x := run o env draw channel events
    let start := afterWait 0 o.loader.delay
    let asked := (0, Entry.load (o.id.getD (idOf env.url)))
    (match o.document env with
      | .error e => x.outcome = .error e ∧ x.acts = [asked]
      | .ok d =>
        let evaluation := d.evaluate (detect o.overrides env draw)
        let base : Resolved := { evaluation, links := evaluation.links, used := .nothing, error := none }
        let begun := [asked] ++ told o.before start (.before base) ++ logged x.calls
        (¬ o.Overflows env evaluation.links →
          ∃ r, x.outcome = .ok r ∧ r.evaluation = evaluation ∧ r.links = evaluation.links ∧
            x.acts = begun ++ told o.after x.elapsed (.after r)) ∧
          (o.Overflows env evaluation.links →
            ∃ deepLink, evaluation.links.deepLink = some deepLink ∧ x.outcome = .overflow ∧ x.elapsed = start ∧
              x.calls = [(start, o.navigation env 0 deepLink)] ∧ x.acts = begun)) ∧
      run { o with before := o.before.map .throwing } env draw channel events = x ∧
      run { o with after := o.after.map .throwing } env draw channel events = x := by
  intro x start asked
  refine ⟨?_, ?_, ?_⟩
  · cases h : o.document env with
    | error e => exact run_of_error o env draw channel events h
    | ok d => exact ⟨told_around_calls draw channel events h, run_of_overflows draw channel events h⟩
  · exact run_hooks o env draw channel events (fun s => s.tell_throwing o.before) fun _ _ => rfl
  · exact run_hooks o env draw channel events (fun _ _ => rfl) fun s => s.tell_throwing o.after

theorem resolution_stops_at_longest :
    let o := { phone (oneLink none) 0 longestSpan with after := some {} }
    let x := run o blinking 0 { value := .visible } [⟨100, .send .hidden⟩]
    (o.document blinking).toOption.isSome ∧ x.outcome = .overflow ∧ x.elapsed = 0 ∧
      x.acts = [(0, .load "default"), (0, .navigate ⟨.host, "app://i", .assign, none⟩)] := by
  decide +kernel

example :
    let o := { phone (oneLink (some "app://store")) 100 500 with before := some { throws := true } }
    (run o blinking 0 { value := .visible } []).acts =
      [(0, .load "default"), (100, .before (onPhone (some "app://store"))),
        (100, .navigate ⟨.host, "app://i", .assign, none⟩),
        (600, .navigate ⟨.host, "app://store", .assign, none⟩)] := by
  decide +kernel

end DeepLink
