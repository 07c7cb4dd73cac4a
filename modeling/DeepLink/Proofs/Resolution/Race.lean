import DeepLink.Proofs.Resolution.Calls
import DeepLink.Proofs.Resolution.Schedule

namespace DeepLink

/-- The first time, from a time on, at which the page hides for one who has subscribed then. What the
deep link sets off counts, what happened up to then does not. -/
def hideTime (env : Environment) (channel : Channel) (provoked : List Signal) (start : Nat)
    (events : List Event) : Option Nat :=
  if env.reports = .none then none
  else
    let past := events.filter (·.time ≤ start)
    firstHide (sendings (channel.closed || past.any (·.signal = .close))
      (provoked.map (⟨start, ·⟩) ++ events.filter (start < ·.time)))

theorem takeWhile_until {events : List Event} (ordered : events.Pairwise (·.time ≤ ·.time)) (t : Nat) :
    events.takeWhile (·.time ≤ t) = events.filter (·.time ≤ t) ∧
      events.dropWhile (·.time ≤ t) = events.filter (t < ·.time) := by
  induction events with
  | nil => exact ⟨rfl, rfl⟩
  | cons e rest ih =>
    obtain ⟨least, ordered'⟩ := List.pairwise_cons.1 ordered
    obtain ⟨ht, hd⟩ := ih ordered'
    by_cases h : e.time ≤ t
    · simp [h, ht, hd, Nat.not_lt.2 h]
    · have later : ∀ x ∈ rest, t < x.time := fun x hx => by
        have := least x hx
        omega
      have none : rest.filter (·.time ≤ t) = [] :=
        List.filter_eq_nil_iff.2 fun x hx => by simpa using later x hx
      have all : rest.filter (t < ·.time) = rest :=
        List.filter_eq_self.2 fun x hx => by simpa using later x hx
      simp [h, none, all, Nat.lt_of_not_le h]

theorem earliest_eq_or_mem {α : Type} (last : Nat × α) (xs : List (Nat × α)) :
    earliest last xs = last ∨ earliest last xs ∈ xs := by
  induction xs with
  | nil => exact .inl rfl
  | cons x xs ih =>
    rw [earliest]
    split
    · exact .inr List.mem_cons_self
    · exact ih.imp_right (List.mem_cons_of_mem x)

theorem afterWait_le_afterWait {a b : Nat} (h : a ≤ b) (start : Nat) : afterWait start a ≤ afterWait start b := by
  simp only [afterWait]
  omega

section

variable {hidden : Option Nat} {start timeout last : Nat}

theorem settle_of_hidden (bound : timeout ≤ last) {t : Nat} {fallback : Option String} (h : hidden = some t)
    (intime : t ≤ afterWait start timeout) : settle hidden start timeout last fallback = (t, .hidden) := by
  have hb : afterWait start timeout ≤ afterWait start last := afterWait_le_afterWait bound start
  cases fallback with
  | none =>
    have : t ≤ afterWait start last := Nat.le_trans intime hb
    simp [settle, earliest, h, this]
  | some url => simp [settle, earliest, h, hb, intime]

theorem settle_of_timeout (bound : timeout ≤ last) {url : String}
    (late : ∀ t, hidden = some t → afterWait start timeout < t) :
    settle hidden start timeout last (some url) = (afterWait start timeout, .timeout url) := by
  have hb : afterWait start timeout ≤ afterWait start last := afterWait_le_afterWait bound start
  cases hidden with
  | none => simp [settle, earliest, hb]
  | some t =>
    have : ¬ t ≤ afterWait start timeout := Nat.not_le.2 (late t rfl)
    simp [settle, earliest, hb, this]

theorem settle_without_fallback (hidden : Option Nat) (start timeout last : Nat) :
    let time := hidden.elim (afterWait start last) (min · (afterWait start last))
    settle hidden start timeout last none = (time, .hidden) ∨
      settle hidden start timeout last none = (time, .backstop) := by
  intro time
  cases hidden with
  | none => exact .inr rfl
  | some t =>
    by_cases h : t ≤ afterWait start last
    · exact .inl (by simp [time, settle, earliest, h])
    · exact .inr (by simp [time, settle, earliest, h, Nat.min_eq_right (Nat.le_of_not_le h)])

end

namespace Scene

theorem hidden_of_ready (o : Options) (env : Environment) (channel : Channel) {events : List Event}
    (ordered : events.Pairwise (·.time ≤ ·.time)) (base : Resolved) (signals : List Signal) :
    let s := ready o env channel events base
    ((s.channel.subscribe env.reports).map fun _ => s.channel.version).bind
        (hiddenFrom · (s.channel.applyAll signals) s.clock s.ahead) =
      hideTime env channel signals (afterWait 0 o.loader.delay) events := by
  intro s
  obtain ⟨taken, left⟩ := takeWhile_until ordered (afterWait 0 o.loader.delay)
  have closed : s.channel.closed = (channel.closed ||
      (events.filter (·.time ≤ afterWait 0 o.loader.delay)).any (·.signal = .close)) := by
    rw [ready_channel, loaded, advance, Channel.applyAll_closed, List.any_map]
    simp only [note, taken]
    rfl
  have ahead : s.ahead = events.filter (afterWait 0 o.loader.delay < ·.time) := by
    rw [ready_ahead, loaded, advance]
    exact left
  have found : hiddenFrom s.channel.version (s.channel.applyAll signals) s.clock s.ahead =
      firstHide (sendings s.channel.closed (signals.map (⟨s.clock, ·⟩) ++ s.ahead)) := by
    apply s.channel.hiddenFrom_eq
    · rw [ahead]
      exact ordered.filter _
    · intro e he
      rw [ahead, List.mem_filter, decide_eq_true_iff] at he
      rw [ready_clock]
      exact he.2
  rw [hideTime]
  dsimp only
  rw [← closed, ← ahead, ← ready_clock o env channel events base]
  split
  · next silent =>
    rw [silent]
    rfl
  · next reporting => rw [Channel.hidden_of_subscribed reporting, found]

def concluded (s : Scene) (o : Options) (env : Environment) (r : Resolved) : Nat × Ending → Option Resolved × Scene
  | (time, .timeout url) => (s.advance time).goTo o env r url .fallback
  | (time, .hidden) => (some { r with used := .deepLink }, s.advance time)
  | (time, .backstop) => (some { r with used := .deepLink }, s.advance time)

theorem race_of_accepted {s : Scene} {o : Options} {env : Environment} {deepLink : String}
    (accepted : o.answer env (o.call s.navigations.length deepLink) = none)
    (fits : o.timeout.ms + backstop.ms ≤ longestSpan) (r : Resolved) :
    let t := s.called o env deepLink
    let hidden := ((s.channel.subscribe env.reports).map fun _ => s.channel.version).bind
      (hiddenFrom · t.channel t.clock t.ahead)
    s.race o env r deepLink =
      t.concluded o env r
        (settle hidden t.clock o.timeout.ms (o.timeout.ms + backstop.ms) r.links.fallback) := by
  rw [race, navigate_eq, accepted]
  dsimp only
  rw [Span.add?_of_le fits]
  dsimp only
  generalize settle _ _ _ _ _ = settled
  obtain ⟨time, ending⟩ := settled
  cases ending <;> rfl

theorem race_of_overflow {s : Scene} {o : Options} {env : Environment} {deepLink : String}
    (accepted : o.answer env (o.call s.navigations.length deepLink) = none)
    (long : longestSpan < o.timeout.ms + backstop.ms) (r : Resolved) :
    s.race o env r deepLink = (none, s.called o env deepLink) := by
  rw [race, navigate_eq, accepted]
  dsimp only
  rw [Span.add?_eq_none_iff.2 long]

theorem deepLink_eq_none_of_desktop {e : Evaluation} (h : e.os = .desktop) : e.links.deepLink = none := by
  simp [Evaluation.links, Target.deepLink, h]

def visit (s : Scene) (o : Options) (env : Environment) (r : Resolved) : Option Resolved × Scene :=
  match r.links.deepLink, r.links.web, r.links.fallback with
  | some deepLink, _, _ => s.race o env r deepLink
  | none, some web, _ => s.goTo o env r web .web
  | none, none, some fallback => s.goTo o env r fallback .fallback
  | none, none, none => (some r, s)

theorem execute_eq (s : Scene) (o : Options) (env : Environment) {r : Resolved}
    (links : r.links = r.evaluation.links) : s.execute o env r =
      if o.navigator.isNone && !env.surface then (some r, s) else s.visit o env r := by
  rw [execute, visit]
  split
  · rfl
  · cases hd : r.links.deepLink with
    | none =>
      dsimp only
      rw [ite_self]
      cases r.links.web with
      | some web => rfl
      | none => cases r.links.fallback <;> rfl
    | some deepLink =>
      have mobile : r.evaluation.os ≠ .desktop := by
        intro desktop
        rw [links, deepLink_eq_none_of_desktop desktop] at hd
        cases hd
      dsimp only
      rw [if_neg fun h => mobile h.1]

theorem execute_of_way (s : Scene) {o : Options} {env : Environment} {r : Resolved}
    (links : r.links = r.evaluation.links) (way : o.navigator.isSome ∨ env.surface) :
    s.execute o env r = s.visit o env r := by
  have passable : (o.navigator.isNone && !env.surface) = false := by
    cases h : o.navigator <;> simp_all
  rw [s.execute_eq o env links, passable]
  rfl

theorem execute_of_accepted (o : Options) (env : Environment) {events : List Event} {base : Resolved}
    {deepLink : String} (channel : Channel) (ordered : events.Pairwise (·.time ≤ ·.time))
    (links : base.links = base.evaluation.links) (way : o.navigator.isSome ∨ env.surface)
    (link : base.links.deepLink = some deepLink) (accepted : o.answer env (o.call 0 deepLink) = none)
    (fits : o.timeout.ms + backstop.ms ≤ longestSpan) :
    let start := afterWait 0 o.loader.delay
    let hidden := hideTime env channel (o.provokes env (o.call 0 deepLink)) start events
    let s := ready o env channel events base
    s.execute o env base = (s.called o env deepLink).concluded o env base
      (settle hidden start o.timeout.ms (o.timeout.ms + backstop.ms) base.links.fallback) := by
  intro start hidden s
  have clock : s.clock = start := ready_clock o env channel events base
  have first : s.navigations.length = 0 := congrArg List.length (navigations_ready o env channel events base)
  have subscribed := hidden_of_ready o env channel ordered base (o.provokes env (o.call 0 deepLink))
  rw [s.execute_of_way links way, visit, link]
  dsimp only
  rw [race_of_accepted (by rw [first]; exact accepted) fits]
  rw [called, first, subscribed, clock]

end Scene

namespace Run

def Opened (x : Run) (base : Resolved) (first : Nat × Navigation) (time : Nat) : Prop :=
  x.elapsed = time ∧ x.outcome = .ok { base with used := .deepLink } ∧ x.calls = [first]

def SentOn (x : Run) (base : Resolved) (first : Nat × Navigation) (second : Navigation) (time : Nat) : Prop :=
  x.elapsed = time ∧ x.outcome = .ok (base.answered .fallback second.refusal) ∧
    x.calls = [first, (time, second)]

def Follows (x : Run) (o : Options) (env : Environment) (base : Resolved) (first : Nat × Navigation) :
    Nat × Ending → Prop
  | (time, .timeout url) => x.SentOn base first (o.navigation env 1 url) time
  | (time, .hidden) => x.Opened base first time
  | (time, .backstop) => x.Opened base first time

end Run

section

variable {o : Options} {env : Environment} {draw : Nat} {events : List Event}
variable {raw : Json} {base : Resolved} {deepLink : String}

theorem run_of_settled (channel : Channel) (ordered : events.Pairwise (·.time ≤ ·.time))
    (load : o.loader.load (o.id.getD (idOf env.url)) = .ok raw)
    (decided : Scene.undecided o env draw raw = .ok base)
    (way : o.navigator.isSome ∨ env.surface) (link : base.links.deepLink = some deepLink)
    (accepted : o.answer env (o.call 0 deepLink) = none)
    (fits : o.timeout.ms + backstop.ms ≤ longestSpan) :
    let start := afterWait 0 o.loader.delay
    let hidden := hideTime env channel (o.provokes env (o.call 0 deepLink)) start events
    (run o env draw channel events).Follows o env base (start, o.navigation env 0 deepLink)
      (settle hidden start o.timeout.ms (o.timeout.ms + backstop.ms) base.links.fallback) := by
  intro start hidden
  obtain ⟨d, -, -, links, -, -⟩ := Scene.undecided_eq_ok decided
  let s := Scene.ready o env channel events base
  have no_calls : calls s.log = [] := Scene.calls_ready o env channel events base
  have clock : s.clock = start := Scene.ready_clock o env channel events base
  have one_call : calls (s.called o env deepLink).log = [(start, o.navigation env 0 deepLink)] := by
    rw [Scene.calls_called, no_calls, clock]
    rfl
  have race := Scene.execute_of_accepted o env channel ordered links way link accepted fits
  obtain ⟨outcome, elapsed, made⟩ := run_of_decided channel events load decided
  dsimp only at race
  rw [race] at outcome elapsed made
  generalize settle hidden start o.timeout.ms _ _ = settled at outcome elapsed made ⊢
  obtain ⟨time, ending⟩ := settled
  cases ending with
  | hidden => exact ⟨elapsed, outcome, by rw [made, Scene.concluded, Scene.calls_advance, one_call]⟩
  | backstop => exact ⟨elapsed, outcome, by rw [made, Scene.concluded, Scene.calls_advance, one_call]⟩
  | timeout url =>
    have second : ((s.called o env deepLink).advance time).navigations.length = 1 := by
      rw [Scene.navigations_eq_calls, Scene.calls_advance, one_call]
      rfl
    rw [Scene.concluded, Scene.goTo_eq] at outcome elapsed made
    refine ⟨elapsed, ?_, ?_⟩
    · rw [outcome, second]
      rfl
    · rw [made, Scene.calls_called, Scene.calls_advance, one_call]
      rfl

/-- When and how a race ends whose deep link is taken. No wait is longer than the longest one. -/
theorem race_outcome (channel : Channel) (ordered : events.Pairwise (·.time ≤ ·.time))
    (load : o.loader.load (o.id.getD (idOf env.url)) = .ok raw)
    (decided : Scene.undecided o env draw raw = .ok base)
    (way : o.navigator.isSome ∨ env.surface) (link : base.links.deepLink = some deepLink)
    (accepted : o.answer env (o.call 0 deepLink) = none)
    (fits : o.timeout.ms + backstop.ms ≤ longestSpan) :
    let x := run o env draw channel events
    let start := afterWait 0 o.loader.delay
    let timeout := afterWait start o.timeout.ms
    let last := afterWait start (o.timeout.ms + backstop.ms)
    let hidden := hideTime env channel (o.provokes env (o.call 0 deepLink)) start events
    let first := (start, o.navigation env 0 deepLink)
    x.elapsed ≤ last ∧
      match base.links.fallback with
      | some url =>
        (∀ t, hidden = some t → t ≤ timeout → x.Opened base first t) ∧
          ((∀ t, hidden = some t → timeout < t) → x.SentOn base first (o.navigation env 1 url) timeout)
      | none => x.Opened base first (hidden.elim last (min · last)) := by
  intro x start timeout last hidden first
  have longer : o.timeout.ms ≤ o.timeout.ms + backstop.ms := Nat.le_add_right _ _
  have bound : timeout ≤ last := afterWait_le_afterWait longer start
  have h : x.Follows o env base first
      (settle hidden start o.timeout.ms (o.timeout.ms + backstop.ms) base.links.fallback) :=
    run_of_settled channel ordered load decided way link accepted fits
  cases hf : base.links.fallback with
  | none =>
    have opened : x.Opened base first (hidden.elim last (min · last)) := by
      rw [hf] at h
      rcases settle_without_fallback hidden start o.timeout.ms (o.timeout.ms + backstop.ms) with hs | hs
      all_goals
        rw [hs] at h
        exact h
    refine ⟨?_, opened⟩
    rw [opened.1]
    cases hidden with
    | none => exact Nat.le_refl _
    | some t => exact Nat.min_le_right _ _
  | some url =>
    rw [hf] at h
    have intime : ∀ t, hidden = some t → t ≤ timeout → x.Opened base first t := by
      intro t ht hle
      rw [settle_of_hidden longer ht hle] at h
      exact h
    have late : (∀ t, hidden = some t → timeout < t) →
        x.SentOn base first (o.navigation env 1 url) timeout := by
      intro hlt
      rw [settle_of_timeout longer hlt] at h
      exact h
    refine ⟨?_, intime, late⟩
    by_cases hides : ∃ t, hidden = some t ∧ t ≤ timeout
    · obtain ⟨t, ht, hle⟩ := hides
      rw [(intime t ht hle).1]
      exact Nat.le_trans hle bound
    · rw [(late fun t ht => Nat.lt_of_not_le fun hle => hides ⟨t, ht, hle⟩).1]
      exact bound

end

def oneLink (fallback : Option String) : Json :=
  .object [("default", .object [("target", .record
    [("ios", some (.string "app://i")), ("fallback", fallback.map .string)])])]

def onPhone (fallback : Option String) : Resolved where
  evaluation := ⟨.iOS, "en", "1970-01-01T00:00:00.000Z", none, none, { ios := some "app://i", fallback }⟩
  links := { deepLink := some "app://i", fallback }

def phone (rules : Json) (delay timeout : Nat) : Options where
  loader := { delay, load := fun _ => .ok rules }
  overrides := { os := some .iOS, lang := some "en", bucket := some 0 }
  timeout := .ofMillis timeout

def blinking : Environment where
  now := ⟨0, 0, by decide, by decide⟩
  reports := .stale
  sets _ := [.send .hidden, .send .visible]

def restless : List Event :=
  [⟨50, .send .hidden⟩, ⟨100, .send .hidden⟩, ⟨200, .send .hidden⟩, ⟨200, .send .visible⟩,
    ⟨600, .send .visible⟩, ⟨600, .send .hidden⟩, ⟨600, .close⟩, ⟨700, .send .hidden⟩]

theorem race_outcome_tie :
    (run (phone (oneLink (some "app://store")) 100 500) blinking 0 { value := .hidden } restless).Opened
      (onPhone (some "app://store")) (100, ⟨.host, "app://i", .assign, none⟩) 600 := by
  have ordered : restless.Pairwise (·.time ≤ ·.time) := by decide
  have decided : Scene.undecided (phone (oneLink (some "app://store")) 100 500) blinking 0
      (oneLink (some "app://store")) = .ok (onPhone (some "app://store")) := by
    decide +kernel
  have h := race_outcome { value := .hidden } ordered rfl decided (.inr rfl) rfl rfl (by decide)
  exact h.2.1 600 (by decide) (by decide)

theorem race_outlasts_longest_wait :
    let o := phone (oneLink none) 0 946079999751
    let x := run o blinking 0 { value := .visible } []
    Scene.undecided o blinking 0 (oneLink none) = .ok (onPhone none) ∧
      (onPhone none).links.deepLink = some "app://i" ∧ (onPhone none).links.fallback = none ∧
      o.answer blinking (o.call 0 "app://i") = none ∧
      hideTime blinking { value := .visible } (o.provokes blinking (o.call 0 "app://i")) 0 [] = none ∧
      x.elapsed = 946080000000 ∧ x.elapsed ≠ 0 + o.timeout.ms + backstop.ms := by
  decide +kernel

end DeepLink
