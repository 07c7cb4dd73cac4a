import DeepLink.Proofs.Resolution.Race

namespace DeepLink

def Entry.isSignal : Entry → Bool
  | .signal _ => true
  | _ => false

def acts (log : List (Nat × Entry)) : List (Nat × Entry) := log.filter fun x => !x.2.isSignal

def logged (made : List (Nat × Navigation)) : List (Nat × Entry) := made.map fun c => (c.1, .navigate c.2)

def told (hook : Option Hook) (time : Nat) (e : Entry) : List (Nat × Entry) := (hook.map fun _ => (time, e)).toList

theorem acts_append (xs ys : List (Nat × Entry)) : acts (xs ++ ys) = acts xs ++ acts ys :=
  List.filter_append xs ys

theorem acts_signals (events : List Event) : acts (events.map fun e => (e.time, .signal e.signal)) = [] := by
  simp [acts, Entry.isSignal]

theorem logged_append (made more : List (Nat × Navigation)) : logged (made ++ more) = logged made ++ logged more :=
  List.map_append

theorem calls_logged (made : List (Nat × Navigation)) : calls (logged made) = made := by
  rw [calls, logged, List.filterMap_map]
  exact List.filterMap_some

theorem calls_acts (log : List (Nat × Entry)) : calls (acts log) = calls log := by
  rw [calls, acts, List.filterMap_filter]
  congr 1
  funext x
  cases x.2 <;> rfl

namespace Run

def acts (x : Run) : List (Nat × Entry) := DeepLink.acts x.log

end Run

structure Scene.Punctual (s : Scene) : Prop where
  ordered : s.ahead.Pairwise (·.time ≤ ·.time)
  later : ∀ e ∈ s.ahead, s.clock < e.time

namespace Scene

variable {s t : Scene}

theorem acts_note {e : Entry} (h : e.isSignal = false) : acts (s.note e).log = acts s.log ++ [(s.clock, e)] := by
  rw [note, acts_append]
  simp [acts, h]

theorem acts_tell (hook : Option Hook) {e : Entry} (h : e.isSignal = false) :
    acts (s.tell hook e).log = acts s.log ++ told hook s.clock e := by
  cases hook with
  | none => exact (List.append_nil _).symm
  | some hook => rw [tell_some, acts_note h]; rfl

theorem acts_advance (s : Scene) (time : Nat) : acts (s.advance time).log = acts s.log := by
  rw [advance, acts_append, acts_signals, List.append_nil]

theorem acts_finish (s : Scene) : acts s.finish.log = acts s.log := by
  rw [finish, acts_append, acts_signals, List.append_nil]

theorem acts_called (s : Scene) (o : Options) (env : Environment) (url : String) :
    acts (s.called o env url).log =
      acts s.log ++ logged [(s.clock, o.navigation env s.navigations.length url)] := by
  rw [called, acts_append]
  rfl

theorem Punctual.tell (h : s.Punctual) (hook : Option Hook) (e : Entry) : (s.tell hook e).Punctual := by
  rcases s.tell_eq hook e with ht | ht
  · rwa [ht]
  · rw [ht]
    exact ⟨h.ordered, h.later⟩

theorem punctual_advance (ordered : s.ahead.Pairwise (·.time ≤ ·.time)) (time : Nat) :
    (s.advance time).Punctual := by
  have left : (s.advance time).ahead = s.ahead.filter (time < ·.time) := (takeWhile_until ordered time).2
  constructor
  · rw [left]
    exact ordered.filter _
  · intro e he
    rw [left, List.mem_filter, decide_eq_true_iff] at he
    exact he.2

/-- What a scene leads to when links are gone to: time goes by, and a navigator is called. Time goes on only where
the events to come do. -/
inductive Leads (o : Options) (env : Environment) (s : Scene) : Scene → Prop
  | refl : Leads o env s s
  | wait {t : Scene} (time : Nat) : Leads o env s t → (t.Punctual → t.clock ≤ time) → Leads o env s (t.advance time)
  | call {t : Scene} (url : String) : Leads o env s t → Leads o env s (t.called o env url)

namespace Leads

variable {o : Options} {env : Environment}

theorem made (h : Leads o env s t) :
    ∃ made, acts t.log = acts s.log ++ logged made ∧ calls t.log = calls s.log ++ made := by
  have acted : ∃ made, acts t.log = acts s.log ++ logged made := by
    induction h with
    | refl => exact ⟨[], (List.append_nil _).symm⟩
    | wait time _ _ ih =>
      obtain ⟨made, ih⟩ := ih
      exact ⟨made, (acts_advance _ time).trans ih⟩
    | @call t url _ ih =>
      obtain ⟨made, ih⟩ := ih
      refine ⟨made ++ [(t.clock, o.navigation env t.navigations.length url)], ?_⟩
      rw [acts_called, ih, logged_append, List.append_assoc]
  obtain ⟨made, acted⟩ := acted
  refine ⟨made, acted, ?_⟩
  rw [← calls_acts, acted, calls_append, calls_acts, calls_logged]

theorem trans {u : Scene} (h : Leads o env s t) (h' : Leads o env t u) : Leads o env s u := by
  induction h' with
  | refl => exact h
  | wait time _ later ih => exact ih.wait time later
  | call url _ ih => exact ih.call url

theorem navigations (h : Leads o env s t) : s.navigations <+: t.navigations := by
  obtain ⟨made, -, grown⟩ := h.made
  rw [navigations_eq_calls, navigations_eq_calls, grown, List.map_append]
  exact List.prefix_append _ _

theorem own (h : Leads o env s t)
    (own : s.navigations = s.navigations.mapIdx fun i n => o.navigation env i n.url) :
    t.navigations = t.navigations.mapIdx fun i n => o.navigation env i n.url := by
  induction h with
  | refl => exact own
  | wait time _ _ ih => rwa [navigations_advance]
  | call url _ ih =>
    rw [navigations_called, List.mapIdx_concat, ← ih]
    rfl

theorem punctual (h : Leads o env s t) (p : s.Punctual) : t.Punctual ∧ s.clock ≤ t.clock := by
  induction h with
  | refl => exact ⟨p, Nat.le_refl _⟩
  | wait time _ later ih =>
    obtain ⟨p', le⟩ := ih
    exact ⟨punctual_advance p'.ordered time, Nat.le_trans le (later p')⟩
  | call url _ ih => exact ⟨⟨ih.1.ordered, ih.1.later⟩, ih.2⟩

theorem timely (h : Leads o env s t) (p : s.Punctual) :
    ∀ c ∈ calls t.log, c ∈ calls s.log ∨ s.clock ≤ c.1 ∧ c.1 ≤ t.clock := by
  induction h with
  | refl => exact fun c => .inl
  | @wait t time before later ih =>
    rw [calls_advance]
    intro c hc
    -- what was made in time stays so, as the clock does not go back
    exact (ih c hc).imp_right fun ⟨after, le⟩ => ⟨after, Nat.le_trans le (later (before.punctual p).1)⟩
  | @call t url before ih =>
    rw [calls_called]
    intro c hc
    rcases List.mem_append.1 hc with hc | hc
    · exact ih c hc
    · obtain rfl := List.mem_singleton.1 hc
      exact .inr ⟨(before.punctual p).2, Nat.le_refl _⟩

end Leads

end Scene

theorem le_settle {hidden : Option Nat} {start : Nat} (h : ∀ t ∈ hidden, start ≤ t) (timeout last : Nat)
    (fallback : Option String) : start ≤ (settle hidden start timeout last fallback).1 := by
  rw [settle]
  rcases earliest_eq_or_mem _ _ with backstop | ended
  · rw [backstop]
    exact le_afterWait _ _
  · rcases List.mem_append.1 ended with hides | waits
    · obtain ⟨t, ht, same⟩ := Option.map_eq_some_iff.1 (Option.mem_toList.1 hides)
      rw [← same]
      exact h t ht
    · obtain ⟨url, -, same⟩ := Option.map_eq_some_iff.1 (Option.mem_toList.1 waits)
      rw [← same]
      exact le_afterWait _ _

theorem mem_of_hiddenAmong {seen : Nat} {c : Channel} {events : List Event} {t : Nat}
    (h : hiddenAmong seen c events = some t) : ∃ e ∈ events, e.time = t := by
  induction events generalizing seen c with
  | nil => cases h
  | cons e rest ih =>
    have among_rest : (∃ e ∈ rest, e.time = t) → ∃ e' ∈ e :: rest, e'.time = t :=
      fun ⟨e', he, same⟩ => ⟨e', List.mem_cons_of_mem _ he, same⟩
    rw [hiddenAmong] at h
    split at h
    · exact among_rest (ih h)
    · split at h
      · exact ⟨e, List.mem_cons_self, Option.some.inj h⟩
      · exact among_rest (ih h)

theorem le_hiddenFrom {seen : Nat} {c : Channel} {now t : Nat} {ahead : List Event}
    (later : ∀ e ∈ ahead, now < e.time) (h : hiddenFrom seen c now ahead = some t) : now ≤ t := by
  rw [hiddenFrom] at h
  split at h
  · exact Nat.le_of_eq (Option.some.inj h)
  · obtain ⟨e, he, rfl⟩ := mem_of_hiddenAmong h
    exact Nat.le_of_lt (later e he)

namespace Scene

structure Pursues (o : Options) (env : Environment) (s : Scene) (r : Resolved) (y : Option Resolved × Scene) : Prop where
  decided : ∀ r' ∈ y.1, r'.evaluation = r.evaluation ∧ r'.links = r.links
  scene : Leads o env s y.2

variable {s t : Scene} {o : Options} {env : Environment} {r r' : Resolved}

theorem pursues_some (evaluation : r'.evaluation = r.evaluation) (links : r'.links = r.links)
    (scene : Leads o env s t) : Pursues o env s r (some r', t) := by
  refine ⟨?_, scene⟩
  rintro _ ⟨⟩
  exact ⟨evaluation, links⟩

theorem pursues_none (scene : Leads o env s t) : Pursues o env s r (none, t) := by
  refine ⟨?_, scene⟩
  rintro _ ⟨⟩

theorem goTo_pursues (evaluation : r'.evaluation = r.evaluation) (links : r'.links = r.links)
    (scene : Leads o env s t) (url : String) (used : Used) : Pursues o env s r (t.goTo o env r' url used) := by
  rw [goTo_eq]
  cases o.answer env (o.call t.navigations.length url) with
  | none => exact pursues_some evaluation links (scene.call url)
  | some refusal => exact pursues_some evaluation links (scene.call url)

theorem concluded_pursues (s : Scene) (o : Options) (env : Environment) (r : Resolved) {settled : Nat × Ending}
    (later : s.Punctual → s.clock ≤ settled.1) : Pursues o env s r (s.concluded o env r settled) := by
  obtain ⟨time, ending⟩ := settled
  have waited : Leads o env s (s.advance time) := .wait time .refl later
  cases ending with
  | hidden => exact pursues_some rfl rfl waited
  | backstop => exact pursues_some rfl rfl waited
  | timeout url => exact goTo_pursues rfl rfl waited url .fallback

theorem race_pursues (s : Scene) (o : Options) (env : Environment) (r : Resolved) (deepLink : String) :
    Pursues o env (s.called o env deepLink) r (s.race o env r deepLink) := by
  cases answer : o.answer env (o.call s.navigations.length deepLink) with
  | none =>
    rcases Nat.lt_or_ge longestSpan (o.timeout.ms + backstop.ms) with long | fits
    · rw [race_of_overflow answer long]
      exact pursues_none .refl
    · rw [race_of_accepted answer fits]
      apply concluded_pursues
      intro punctual
      apply le_settle
      intro t ht
      obtain ⟨seen, -, found⟩ := Option.bind_eq_some_iff.1 ht
      exact le_hiddenFrom punctual.later found
  | some refusal =>
    rw [race, navigate_eq, answer]
    dsimp only
    split
    · refine goTo_pursues ?_ ?_ .refl _ _
      · rfl
      · rfl
    · exact pursues_some rfl rfl .refl

theorem Pursues.of_leads {y : Option Resolved × Scene} (before : Leads o env s t) (h : Pursues o env t r y) :
    Pursues o env s r y := ⟨h.decided, before.trans h.scene⟩

theorem visit_pursues (s : Scene) (o : Options) (env : Environment) (r : Resolved) :
    Pursues o env s r (s.visit o env r) := by
  rw [visit]
  cases r.links.deepLink with
  | some deepLink => exact .of_leads (Leads.refl.call deepLink) (race_pursues s o env r deepLink)
  | none =>
    cases r.links.web with
    | some web => exact goTo_pursues rfl rfl .refl web .web
    | none =>
      cases r.links.fallback with
      | some fallback => exact goTo_pursues rfl rfl .refl fallback .fallback
      | none => exact pursues_some rfl rfl .refl

theorem execute_pursues (s : Scene) (o : Options) (env : Environment) {r : Resolved}
    (links : r.links = r.evaluation.links) : Pursues o env s r (s.execute o env r) := by
  rw [s.execute_eq o env links]
  split
  · exact pursues_some rfl rfl .refl
  · exact visit_pursues s o env r

theorem execute_of_no_way (no_way : o.navigator = none ∧ env.surface = false) (s : Scene) (r : Resolved) :
    s.execute o env r = (some r, s) := by
  rw [execute, no_way.1, no_way.2]
  rfl

end Scene

end DeepLink
