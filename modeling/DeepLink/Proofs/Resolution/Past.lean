import DeepLink.Proofs.Resolution.Destination

/-!
What counts of a page's visibility: only what is sent once the deep link is gone to. Hosts that differ in the past of
their channels alone are not told apart.
-/

namespace DeepLink

namespace Channel

variable {c c' : Channel} {seen seen' : Nat}

structure Alike (seen : Nat) (c : Channel) (seen' : Nat) (c' : Channel) : Prop where
  closed : c.closed = c'.closed
  news : seen = c.version ∧ seen' = c'.version ∨ seen < c.version ∧ seen' < c'.version ∧ c.value = c'.value

theorem alike_subscribed (closed : c.closed = c'.closed) : Alike c.version c c'.version c' :=
  ⟨closed, .inl ⟨rfl, rfl⟩⟩

namespace Alike

theorem apply (h : Alike seen c seen' c') (s : Signal) : Alike seen (c.apply s) seen' (c'.apply s) := by
  by_cases hc : c.closed
  · rw [apply_of_closed hc, apply_of_closed (h.closed ▸ hc)]
    exact h
  · have hc' : ¬ c'.closed := h.closed ▸ hc
    cases s with
    | close => exact ⟨rfl, h.news⟩
    | send v =>
      have news := h.news
      rw [Channel.apply, Channel.apply, if_neg hc, if_neg hc']
      -- both have one more value, whatever they had
      refine ⟨h.closed, .inr ⟨?_, ?_, rfl⟩⟩
      · show seen < c.version + 1
        omega
      · show seen' < c'.version + 1
        omega

theorem applyAll (h : Alike seen c seen' c') (signals : List Signal) :
    Alike seen (c.applyAll signals) seen' (c'.applyAll signals) := by
  induction signals generalizing c c' with
  | nil => exact h
  | cons s signals ih => exact ih (h.apply s)

theorem hides (h : Alike seen c seen' c') : c.hides seen = c'.hides seen' := by
  rcases h.news with ⟨hs, hs'⟩ | ⟨hs, hs', hv⟩
  · simp [Channel.hides, hs, hs']
  · have hn : c.version ≠ seen := by omega
    have hn' : c'.version ≠ seen' := by omega
    simp [Channel.hides, hn, hn', hv]

theorem hiddenAmong (h : Alike seen c seen' c') (events : List Event) :
    hiddenAmong seen c events = hiddenAmong seen' c' events := by
  induction events generalizing seen c seen' c' with
  | nil => rfl
  | cons e rest ih =>
    have next := h.apply e.signal
    rw [DeepLink.hiddenAmong, DeepLink.hiddenAmong, next.hides]
    split
    · exact ih next
    · split
      · rfl
      -- after a look both have seen everything
      · exact ih (alike_subscribed next.closed)

theorem hiddenFrom (h : Alike seen c seen' c') (now : Nat) (ahead : List Event) :
    hiddenFrom seen c now ahead = hiddenFrom seen' c' now ahead := by
  rw [DeepLink.hiddenFrom, DeepLink.hiddenFrom, h.hides, (alike_subscribed h.closed).hiddenAmong]

end Alike

theorem hidden_eq_of_closed_eq {reports reports' : Reports} (hosts : reports = .none ↔ reports' = .none)
    (closed : c.closed = c'.closed) (signals : List Signal) (now : Nat) (ahead : List Event) :
    ((c.subscribe reports).map fun _ => c.version).bind (hiddenFrom · (c.applyAll signals) now ahead) =
      ((c'.subscribe reports').map fun _ => c'.version).bind (hiddenFrom · (c'.applyAll signals) now ahead) := by
  by_cases h : reports = .none
  · rw [h, hosts.1 h]
    rfl
  · have h' : reports' ≠ .none := fun none => h (hosts.2 none)
    rw [hidden_of_subscribed h, hidden_of_subscribed h']
    apply Alike.hiddenFrom
    apply Alike.applyAll
    exact alike_subscribed closed

end Channel

namespace Scene

variable {s s' : Scene}

structure Alike (s s' : Scene) : Prop where
  clock : s.clock = s'.clock
  ahead : s.ahead = s'.ahead
  acts : acts s.log = acts s'.log
  closed : s.channel.closed = s'.channel.closed

def SameWay {α : Type} (y y' : α × Scene) : Prop := y.1 = y'.1 ∧ y.2.Alike y'.2

theorem advance_divided {past future : List Event} {time : Nat} (ahead : s.ahead = past ++ future)
    (before : ∀ e ∈ past, e.time ≤ time) (after : ∀ e ∈ future, time < e.time) :
    (s.advance time).ahead = future ∧
      (s.advance time).channel = s.channel.applyAll (past.map (·.signal)) := by
  have before : ∀ e ∈ past, decide (e.time ≤ time) = true := fun e he => decide_eq_true (before e he)
  have none : future.takeWhile (·.time ≤ time) = [] ∧ future.dropWhile (·.time ≤ time) = future := by
    cases future with
    | nil => exact ⟨rfl, rfl⟩
    | cons e rest =>
      have late : ¬ e.time ≤ time := Nat.not_le.2 (after e List.mem_cons_self)
      simp [late]
  rw [advance, ahead, List.takeWhile_append_of_pos before, List.dropWhile_append_of_pos before, none.1, none.2]
  exact ⟨rfl, by rw [List.append_nil]⟩

namespace Alike

theorem navigations (h : s.Alike s') : s.navigations = s'.navigations := by
  rw [navigations_eq_calls, navigations_eq_calls, ← calls_acts s.log, h.acts, calls_acts]

theorem tell (h : s.Alike s') (hook : Option Hook) {e : Entry} (he : e.isSignal = false) :
    (s.tell hook e).Alike (s'.tell hook e) := by
  constructor
  · rw [tell_clock, tell_clock, h.clock]
  · rw [tell_ahead, tell_ahead, h.ahead]
  · rw [acts_tell hook he, acts_tell hook he, h.acts, h.clock]
  · rw [tell_channel, tell_channel, h.closed]

theorem advance (h : s.Alike s') (time : Nat) : (s.advance time).Alike (s'.advance time) := by
  constructor
  · rfl
  · simp only [Scene.advance, h.ahead]
  · rw [acts_advance, acts_advance, h.acts]
  · simp only [Scene.advance, Channel.applyAll_closed, h.closed, h.ahead]

variable (o : Options) (env : Environment) (reports : Reports)

theorem called (h : s.Alike s') (url : String) :
    (s.called o env url).Alike (s'.called o { env with reports } url) := by
  have same : o.navigation { env with reports } s'.navigations.length url =
      o.navigation env s.navigations.length url := by
    rw [← h.navigations]
    rfl
  constructor
  · exact h.clock
  · exact h.ahead
  · rw [acts_called, acts_called, h.acts, h.clock, same]
  · simp only [Scene.called, Channel.applyAll_closed, h.closed, h.navigations]
    rfl

theorem goTo (h : s.Alike s') (r : Resolved) (url : String) (used : Used) :
    SameWay (s.goTo o env r url used) (s'.goTo o { env with reports } r url used) := by
  rw [goTo_eq, goTo_eq, h.navigations]
  exact ⟨rfl, h.called o env reports url⟩

theorem concluded (h : s.Alike s') (r : Resolved) (settled : Nat × Ending) :
    SameWay (s.concluded o env r settled) (s'.concluded o { env with reports } r settled) := by
  obtain ⟨time, ending⟩ := settled
  cases ending with
  | hidden => exact ⟨rfl, h.advance time⟩
  | backstop => exact ⟨rfl, h.advance time⟩
  | timeout url => exact (h.advance time).goTo o env reports r url .fallback

variable {env reports} (hosts : env.reports = .none ↔ reports = .none)
include hosts

theorem race (h : s.Alike s') (r : Resolved) (deepLink : String) :
    SameWay (s.race o env r deepLink) (s'.race o { env with reports } r deepLink) := by
  have next := h.called o env reports deepLink
  have same : o.answer env (o.call s.navigations.length deepLink) =
      o.answer { env with reports } (o.call s'.navigations.length deepLink) := by
    rw [h.navigations]
    rfl
  cases answer : o.answer env (o.call s.navigations.length deepLink) with
  | none =>
    have found : ((s.channel.subscribe env.reports).map fun _ => s.channel.version).bind
          (hiddenFrom · (s.called o env deepLink).channel (s.called o env deepLink).clock
            (s.called o env deepLink).ahead) =
        ((s'.channel.subscribe reports).map fun _ => s'.channel.version).bind
          (hiddenFrom · (s'.called o { env with reports } deepLink).channel
            (s'.called o { env with reports } deepLink).clock (s'.called o { env with reports } deepLink).ahead) := by
      simp only [Scene.called, ← h.clock, ← h.ahead, ← h.navigations]
      exact Channel.hidden_eq_of_closed_eq hosts h.closed _ _ _
    rcases Nat.lt_or_ge longestSpan (o.timeout.ms + backstop.ms) with long | fits
    · rw [race_of_overflow answer long, race_of_overflow (same ▸ answer) long]
      exact ⟨rfl, next⟩
    · rw [race_of_accepted answer fits, race_of_accepted (same ▸ answer) fits]
      dsimp only
      rw [found, next.clock]
      exact next.concluded o env reports r _
  | some refusal =>
    rw [Scene.race, Scene.race, navigate_eq, navigate_eq, ← same, answer]
    dsimp only
    cases r.links.fallback with
    | none => exact ⟨rfl, next⟩
    | some url => exact next.goTo o env reports _ url .fallback

theorem visit (h : s.Alike s') (r : Resolved) : SameWay (s.visit o env r) (s'.visit o { env with reports } r) := by
  rw [Scene.visit, Scene.visit]
  cases r.links.deepLink with
  | some deepLink => exact h.race o hosts r deepLink
  | none =>
    cases r.links.web with
    | some web => exact h.goTo o env reports r web .web
    | none =>
      cases r.links.fallback with
      | some fallback => exact h.goTo o env reports r fallback .fallback
      | none => exact ⟨rfl, h⟩

theorem execute (h : s.Alike s') {r : Resolved} (links : r.links = r.evaluation.links) :
    SameWay (s.execute o env r) (s'.execute o { env with reports } r) := by
  rw [s.execute_eq o env links, s'.execute_eq o { env with reports } links]
  dsimp only
  split
  · exact ⟨rfl, h⟩
  · exact h.visit o hosts r

end Alike

theorem SameWay.deliver {y y' : Option Resolved × Scene} (h : SameWay y y') (o : Options) :
    SameWay (deliver o y) (deliver o y') := by
  obtain ⟨result, s⟩ := y
  obtain ⟨result', s'⟩ := y'
  obtain ⟨rfl, alike⟩ : result = result' ∧ s.Alike s' := h
  cases result with
  | none => exact ⟨rfl, alike⟩
  | some r => exact ⟨rfl, alike.tell o.after rfl⟩

theorem loaded_alike (o : Options) (env : Environment) (reports : Reports) {channel channel' : Channel}
    {past past' future : List Event} (before : ∀ e ∈ past, e.time ≤ afterWait 0 o.loader.delay)
    (before' : ∀ e ∈ past', e.time ≤ afterWait 0 o.loader.delay)
    (after : ∀ e ∈ future, afterWait 0 o.loader.delay < e.time)
    (closed : (channel.applyAll (past.map (·.signal))).closed = (channel'.applyAll (past'.map (·.signal))).closed) :
    (loaded o env channel (past ++ future)).Alike (loaded o { env with reports } channel' (past' ++ future)) := by
  have divided := advance_divided (s := note ⟨0, channel, past ++ future, []⟩ (.load (o.id.getD (idOf env.url))))
    rfl before after
  have divided' := advance_divided (s := note ⟨0, channel', past' ++ future, []⟩ (.load (o.id.getD (idOf env.url))))
    rfl before' after
  constructor
  · rfl
  · exact divided.1.trans divided'.1.symm
  · rw [acts_loaded, acts_loaded]
  · rw [loaded, loaded, divided.2, divided'.2]
    exact closed

end Scene

/-- Two resolutions whose hosts differ only in the past of their channels, up to the time at which the deep link is
gone to, come to the same, do the same, and do it at the same times. Only whether the channel is closed by then counts,
not what was sent on it, nor how much of it a subscriber has seen. -/
theorem past_forgotten (o : Options) (env : Environment) (draw : Nat) {reports : Reports}
    {channel channel' : Channel} {past past' future : List Event}
    (hosts : env.reports = .none ↔ reports = .none)
    (before : ∀ e ∈ past, e.time ≤ afterWait 0 o.loader.delay)
    (before' : ∀ e ∈ past', e.time ≤ afterWait 0 o.loader.delay)
    (after : ∀ e ∈ future, afterWait 0 o.loader.delay < e.time)
    (closed : (channel.applyAll (past.map (·.signal))).closed = (channel'.applyAll (past'.map (·.signal))).closed) :
    let x := run o env draw channel (past ++ future)
    let y := run o { env with reports } draw channel' (past' ++ future)
    x.outcome = y.outcome ∧ x.elapsed = y.elapsed ∧ x.calls = y.calls ∧ x.acts = y.acts := by
  intro x y
  have loaded := Scene.loaded_alike o env reports before before' after closed
  have done : x.outcome = y.outcome ∧ x.elapsed = y.elapsed ∧ x.acts = y.acts := by
    have document : o.document { env with reports } = o.document env := rfl
    have detected : detect o.overrides { env with reports } draw = detect o.overrides env draw := rfl
    simp only [x, y, run, Run.acts, Scene.resolve_eq, document, detected]
    cases o.document env with
    | error e =>
      refine ⟨rfl, loaded.clock, ?_⟩
      rw [Scene.acts_finish, Scene.acts_finish, loaded.acts]
    | ok d =>
      let base := d.untried (detect o.overrides env draw)
      have ready : (Scene.ready o env channel (past ++ future) base).Alike
          (Scene.ready o { env with reports } channel' (past' ++ future) base) := loaded.tell o.before rfl
      obtain ⟨result, settled⟩ := (ready.execute o hosts (r := base) rfl).deliver o
      refine ⟨result, settled.clock, ?_⟩
      rw [Scene.acts_finish, Scene.acts_finish]
      exact settled.acts
  obtain ⟨outcome, elapsed, acted⟩ := done
  refine ⟨outcome, elapsed, ?_, acted⟩
  rw [Run.calls, Run.calls, ← calls_acts x.log, ← calls_acts y.log]
  exact congrArg calls acted

def calm : Environment where
  now := blinking.now

theorem past_forgotten_stale :
    let o := phone (oneLink (some "app://store")) 100 500
    let past : List Event := [⟨50, .send .hidden⟩]
    let past' : List Event := [⟨60, .send .visible⟩, ⟨100, .send .hidden⟩]
    let future : List Event := [⟨300, .send .visible⟩, ⟨400, .send .hidden⟩]
    let x := run o calm 0 { value := .visible } (past ++ future)
    let y := run o { calm with reports := .stale } 0 { value := .hidden, version := 7 } (past' ++ future)
    x.elapsed = 400 ∧ x.outcome = y.outcome ∧ x.elapsed = y.elapsed ∧ x.calls = y.calls ∧ x.acts = y.acts := by
  intro o past past' future x y
  have hosts : calm.reports = .none ↔ Reports.stale = .none := by decide
  refine ⟨by decide +kernel, ?_⟩
  exact past_forgotten o calm 0 hosts (by decide) (by decide) (by decide) rfl

end DeepLink
