import DeepLink.Proofs.Resolution.Past

/-!
A page that is hidden and stays so. What its host announces after the deep link is taken for the app opening, though
nothing changes; only a race that ends before the first announcement goes as without a report of visibility.
-/

namespace DeepLink

def announced (env : Environment) (channel : Channel) (provoked : List Signal) (start : Nat) (events : List Event) :
    List (Nat × Visibility) :=
  if env.reports = .none then []
  else
    let past := events.filter (·.time ≤ start)
    sendings (channel.closed || past.any (·.signal = .close))
      (provoked.map (⟨start, ·⟩) ++ events.filter (start < ·.time))

theorem hideTime_eq_firstHide (env : Environment) (channel : Channel) (provoked : List Signal) (start : Nat)
    (events : List Event) :
    hideTime env channel provoked start events = firstHide (announced env channel provoked start events) := by
  rw [hideTime, announced]
  split
  · rfl
  · rfl

theorem le_firstHide_iff {sent : List (Nat × Visibility)} (hidden : ∀ a ∈ sent, a.2 = .hidden) (n : Nat) :
    (∀ t, firstHide sent = some t → n ≤ t) ↔ ∀ a ∈ sent, n ≤ a.1 := by
  have hides : ∀ a ∈ sent, lastAt a.1 sent = some .hidden := by
    intro a ha
    cases hl : lastAt a.1 sent with
    | none => exact absurd rfl (lastAt_eq_none.1 hl a ha)
    | some v => rw [← hidden _ (mem_of_lastAt hl)]
  constructor
  · intro h a ha
    cases hf : firstHide sent with
    | none =>
      rw [firstHide, List.min?_eq_none_iff, List.filter_eq_nil_iff] at hf
      have := hf a.1 (List.mem_map_of_mem ha)
      rw [hides a ha] at this
      simp at this
    | some t =>
      have least := (firstHide_eq_some_iff.1 hf).2 a.1 (hides a ha)
      exact Nat.le_trans (h t hf) least
  · intro h t hf
    exact h _ (mem_of_lastAt (firstHide_eq_some_iff.1 hf).1)

def Environment.mute (env : Environment) : Environment := { env with reports := .none }

theorem settle_silent {timeout last : Nat} (bound : timeout ≤ last) (start : Nat) (url : String) :
    settle none start timeout last (some url) = (afterWait start timeout, .timeout url) := by
  apply settle_of_timeout bound
  intro t ht
  cases ht

namespace Scene

theorem concluded_late (s : Scene) (o : Options) (env : Environment) (r : Resolved) {hidden : Option Nat}
    {start timeout last : Nat} (late : ∀ t, hidden = some t → afterWait start last ≤ t) :
    s.concluded o env r (settle hidden start timeout last none) =
      s.concluded o env r (settle none start timeout last none) := by
  have ends : hidden.elim (afterWait start last) (min · (afterWait start last)) = afterWait start last := by
    cases hidden with
    | none => rfl
    | some t => exact Nat.min_eq_right (late t rfl)
  have silent : settle none start timeout last none = (afterWait start last, .backstop) := rfl
  rw [silent]
  -- at the last it makes no difference whether the page hides or the race just ends
  rcases settle_without_fallback hidden start timeout last with ended | ended
  · rw [ended, ends]
    rfl
  · rw [ended, ends]

theorem concluded_mute (s : Scene) (o : Options) (env : Environment) (r : Resolved) (settled : Nat × Ending) :
    s.concluded o env.mute r settled = s.concluded o env r settled := by
  obtain ⟨time, ending⟩ := settled
  cases ending <;> rfl

end Scene

section

variable {o : Options} {env : Environment} {draw : Nat} {events : List Event}
variable {raw : Json} {base : Resolved} {deepLink : String}

theorem Run.late_of_sentOn {x : Run} {first : Nat × Navigation} {second : Navigation} {hidden : Option Nat}
    {start timeout last time t : Nat} {url : String} (bound : timeout ≤ last)
    (heard : x.Follows o env base first (settle hidden start timeout last (some url)))
    (sent : x.SentOn base first second time) (ht : hidden = some t) : afterWait start timeout < t := by
  apply Nat.lt_of_not_le
  intro intime
  rw [settle_of_hidden bound ht intime] at heard
  -- a page that hides in time leaves it at one call
  have one : x.calls = [first] := heard.2.2
  rw [sent.2.2] at one
  cases one

theorem Run.late_of_opened {x : Run} {first : Nat × Navigation} {hidden : Option Nat} {start timeout last t : Nat}
    (heard : x.Follows o env base first (settle hidden start timeout last none))
    (opened : x.Opened base first (afterWait start last)) (ht : hidden = some t) : afterWait start last ≤ t := by
  have ended : x.elapsed = min t (afterWait start last) := by
    rcases settle_without_fallback hidden start timeout last with settled | settled
    all_goals
      rw [settled, ht] at heard
      exact heard.1
  rw [opened.1] at ended
  omega

theorem run_mute_of_execute (channel : Channel) (load : o.loader.load (o.id.getD (idOf env.url)) = .ok raw)
    (decided : Scene.undecided o env draw raw = .ok base)
    (same : let s := Scene.ready o env channel events base
      s.execute o env base = s.execute o env.mute base) :
    run o env draw channel events = run o env.mute draw channel events := by
  obtain ⟨d, document, rfl⟩ := document_of_decided load decided
  have document' : o.document env.mute = .ok d := document
  have ready (r : Resolved) : Scene.ready o env.mute channel events r = Scene.ready o env channel events r := rfl
  have detected : detect o.overrides env.mute draw = detect o.overrides env draw := rfl
  simp only [run, Scene.resolve_eq, document, document', ready, detected]
  rw [same]

/-- What a race comes to on a page that is not shown again after the deep link, and so on one that was hidden before:
without a report of visibility the visitor goes to the fallback at the timeout, or the app is taken to have opened at
the last; and with a report all goes the same way just if nothing is announced until then. -/
theorem unheard_iff_late (channel : Channel) (ordered : events.Pairwise (·.time ≤ ·.time))
    (load : o.loader.load (o.id.getD (idOf env.url)) = .ok raw)
    (decided : Scene.undecided o env draw raw = .ok base)
    (way : o.navigator.isSome ∨ env.surface) (link : base.links.deepLink = some deepLink)
    (accepted : o.answer env (o.call 0 deepLink) = none)
    (fits : o.timeout.ms + backstop.ms ≤ longestSpan)
    (hidden : ∀ a ∈ announced env channel (o.provokes env (o.call 0 deepLink)) (afterWait 0 o.loader.delay) events,
      a.2 = .hidden) :
    let start := afterWait 0 o.loader.delay
    let timeout := afterWait start o.timeout.ms
    let last := afterWait start (o.timeout.ms + backstop.ms)
    let first := (start, o.navigation env 0 deepLink)
    let sent := announced env channel (o.provokes env (o.call 0 deepLink)) start events
    let x := run o env draw channel events
    let mute := run o env.mute draw channel events
    match base.links.fallback with
    | some url => mute.SentOn base first (o.navigation env 1 url) timeout ∧ (x = mute ↔ ∀ a ∈ sent, timeout < a.1)
    | none => mute.Opened base first last ∧ (x = mute ↔ ∀ a ∈ sent, last ≤ a.1) := by
  intro start timeout last first sent x mute
  have longer : o.timeout.ms ≤ o.timeout.ms + backstop.ms := Nat.le_add_right _ _
  obtain ⟨-, -, -, links, -, -⟩ := Scene.undecided_eq_ok decided
  let s := Scene.ready o env channel events base
  let t := s.called o env deepLink
  let settled (hidden : Option Nat) : Nat × Ending :=
    settle hidden start o.timeout.ms (o.timeout.ms + backstop.ms) base.links.fallback
  have heard : x.Follows o env base first (settled (firstHide sent)) := by
    rw [← hideTime_eq_firstHide]
    exact run_of_settled channel ordered load decided way link accepted fits
  have unheard : mute.Follows o env.mute base (start, o.navigation env.mute 0 deepLink) (settled none) :=
    run_of_settled channel ordered load decided way link accepted fits
  have executed : s.execute o env base = t.concluded o env base (settled (firstHide sent)) := by
    rw [← hideTime_eq_firstHide]
    exact Scene.execute_of_accepted o env channel ordered links way link accepted fits
  have executed_mute : s.execute o env.mute base = t.concluded o env base (settled none) := by
    rw [← Scene.concluded_mute]
    exact Scene.execute_of_accepted o env.mute channel ordered links way link accepted fits
  dsimp only [settled] at heard unheard executed executed_mute
  cases hf : base.links.fallback with
  | some url =>
    rw [hf] at heard unheard executed executed_mute
    rw [settle_silent longer] at unheard executed_mute
    have sentOn : mute.SentOn base first (o.navigation env 1 url) timeout := unheard
    refine ⟨sentOn, Iff.trans ?_ (le_firstHide_iff hidden (timeout + 1))⟩
    constructor
    · intro same t ht
      exact Run.late_of_sentOn longer heard (same ▸ sentOn) ht
    · intro late
      apply run_mute_of_execute channel load decided
      dsimp only
      rw [executed, executed_mute, settle_of_timeout longer late]
  | none =>
    rw [hf] at heard unheard executed executed_mute
    have opened : mute.Opened base first last := unheard
    refine ⟨opened, Iff.trans ?_ (le_firstHide_iff hidden last)⟩
    constructor
    · intro same t ht
      exact Run.late_of_opened heard (same ▸ opened) ht
    · intro late
      apply run_mute_of_execute channel load decided
      dsimp only
      rw [executed, executed_mute, Scene.concluded_late _ _ _ _ late]

end

theorem unheard_iff_late_hidden :
    let o := phone (oneLink (some "app://store")) 100 500
    let events : List Event := [⟨50, .send .hidden⟩, ⟨700, .send .hidden⟩, ⟨800, .close⟩, ⟨900, .send .visible⟩]
    let mute := run o calm.mute 0 { value := .visible } events
    mute.SentOn (onPhone (some "app://store")) (100, ⟨.host, "app://i", .assign, none⟩)
        ⟨.host, "app://store", .assign, none⟩ 600 ∧
      run o calm 0 { value := .visible } events = mute := by
  intro o events mute
  have ordered : events.Pairwise (·.time ≤ ·.time) := by decide
  have decided : Scene.undecided o calm 0 (oneLink (some "app://store")) = .ok (onPhone (some "app://store")) := by
    decide +kernel
  have h := unheard_iff_late { value := .visible } ordered rfl decided (.inr rfl) rfl rfl (by decide) (by decide)
  exact ⟨h.1, h.2.2 (by decide)⟩

theorem hidden_page_heard :
    let o := phone (oneLink (some "app://store")) 0 500
    let base := onPhone (some "app://store")
    let events : List Event := [⟨100, .send .hidden⟩]
    let x := run o calm 0 { value := .hidden } events
    let mute := run o calm.mute 0 { value := .hidden } events
    Scene.undecided o calm 0 (oneLink (some "app://store")) = .ok base ∧ calm.surface ∧
      base.links.deepLink = some "app://i" ∧ o.answer calm (o.call 0 "app://i") = none ∧
      announced calm { value := .hidden } (o.provokes calm (o.call 0 "app://i")) 0 events = [(100, .hidden)] ∧
      x.elapsed = 100 ∧ x.outcome = .ok { base with used := .deepLink } ∧
      mute.elapsed = 500 ∧ mute.outcome = .ok { base with used := .fallback } := by
  decide +kernel

end DeepLink
