import DeepLink.Resolution.Channel

namespace DeepLink

def sendings (closed : Bool) : List Event → List (Nat × Visibility)
  | [] => []
  | ⟨t, .send v⟩ :: rest => if closed then sendings closed rest else (t, v) :: sendings closed rest
  | ⟨_, .close⟩ :: rest => sendings true rest

def lastAt (t : Nat) (sent : List (Nat × Visibility)) : Option Visibility :=
  (sent.filter (·.1 = t)).getLast?.map (·.2)

def firstHide (sent : List (Nat × Visibility)) : Option Nat :=
  ((sent.map (·.1)).filter (lastAt · sent = some .hidden)).min?

theorem lastAt_eq_none {t : Nat} {sent : List (Nat × Visibility)} :
    lastAt t sent = none ↔ ∀ x ∈ sent, x.1 ≠ t := by
  simp [lastAt]

theorem lastAt_of_forall {t : Nat} {sent : List (Nat × Visibility)} (h : ∀ x ∈ sent, x.1 = t) :
    lastAt t sent = sent.getLast?.map (·.2) := by
  rw [lastAt, List.filter_eq_self.2]
  intro x hx
  exact decide_eq_true (h x hx)

theorem lastAt_append (t : Nat) (xs ys : List (Nat × Visibility)) :
    lastAt t (xs ++ ys) = (lastAt t ys).or (lastAt t xs) := by
  simp only [lastAt, List.filter_append, List.getLast?_append]
  cases (ys.filter (·.1 = t)).getLast? <;> simp

theorem mem_of_lastAt {t : Nat} {v : Visibility} {sent : List (Nat × Visibility)}
    (h : lastAt t sent = some v) : (t, v) ∈ sent := by
  obtain ⟨⟨u, w⟩, hl, rfl⟩ := Option.map_eq_some_iff.1 h
  obtain ⟨hm, hu⟩ := List.mem_filter.1 (List.mem_of_getLast? hl)
  rw [decide_eq_true_iff] at hu
  exact hu ▸ hm

theorem firstHide_eq_some_iff {t : Nat} {sent : List (Nat × Visibility)} :
    firstHide sent = some t ↔
      lastAt t sent = some .hidden ∧ ∀ u, lastAt u sent = some .hidden → t ≤ u := by
  have mem : ∀ u, u ∈ (sent.map (·.1)).filter (lastAt · sent = some .hidden) ↔
      lastAt u sent = some .hidden := by
    intro u
    rw [List.mem_filter, decide_eq_true_iff, and_iff_right_iff_imp]
    intro h
    exact List.mem_map_of_mem (mem_of_lastAt h)
  rw [firstHide, List.min?_eq_some_iff, mem]
  simp only [mem]

theorem firstHide_append {t : Nat} {xs ys : List (Nat × Visibility)} (hx : ∀ x ∈ xs, x.1 = t)
    (hy : ∀ y ∈ ys, t < y.1) :
    firstHide (xs ++ ys) =
      if xs.getLast?.map (·.2) = some .hidden then some t else firstHide ys := by
  have at_t : lastAt t (xs ++ ys) = xs.getLast?.map (·.2) := by
    have hn : lastAt t ys = none := lastAt_eq_none.2 fun y h => Nat.ne_of_gt (hy y h)
    rw [lastAt_append, hn, Option.none_or, lastAt_of_forall hx]
  have at_other : ∀ u, u ≠ t → lastAt u (xs ++ ys) = lastAt u ys := by
    intro u hu
    have hn : lastAt u xs = none := lastAt_eq_none.2 fun x h e => hu (e ▸ hx x h)
    rw [lastAt_append, hn, Option.or_none]
  have later : ∀ u, lastAt u ys = some .hidden → t < u := fun u h => hy _ (mem_of_lastAt h)
  ext a
  rw [firstHide_eq_some_iff]
  split
  · next hh =>
    constructor
    · rintro ⟨ha, least⟩
      have hat : a ≤ t := least t (at_t.trans hh)
      by_cases he : a = t
      · rw [he]
      · rw [at_other a he] at ha
        exact absurd (later a ha) (by omega)
    · rintro ⟨⟩
      refine ⟨at_t.trans hh, ?_⟩
      intro u hu
      by_cases he : u = t
      · exact Nat.le_of_eq he.symm
      · rw [at_other u he] at hu
        exact Nat.le_of_lt (later u hu)
  · next hh =>
    rw [firstHide_eq_some_iff]
    have same : ∀ u, lastAt u (xs ++ ys) = some .hidden ↔ lastAt u ys = some .hidden := by
      intro u
      by_cases he : u = t
      · subst he
        rw [at_t]
        exact ⟨fun h => absurd h hh, fun h => absurd (later u h) (Nat.lt_irrefl u)⟩
      · rw [at_other u he]
    simp only [same]

theorem firstHide_nil : firstHide [] = none := rfl

theorem sendings_append (closed : Bool) (xs ys : List Event) :
    sendings closed (xs ++ ys) =
      sendings closed xs ++ sendings (closed || xs.any (·.signal = .close)) ys := by
  induction xs generalizing closed with
  | nil => simp [sendings]
  | cons e xs ih =>
    obtain ⟨t, v | _⟩ := e
    · by_cases hc : closed <;> simp [sendings, ih, hc]
    · simp [sendings, ih]

theorem time_of_mem_sendings {closed : Bool} {events : List Event} {x : Nat × Visibility}
    (h : x ∈ sendings closed events) : ∃ e ∈ events, e.time = x.1 := by
  induction events generalizing closed with
  | nil => simp [sendings] at h
  | cons e rest ih =>
    have tail : ∀ {c}, x ∈ sendings c rest → ∃ e' ∈ e :: rest, e'.time = x.1 := by
      intro c hc
      obtain ⟨e', he', ht⟩ := ih hc
      exact ⟨e', List.mem_cons_of_mem _ he', ht⟩
    obtain ⟨t, v | _⟩ := e
    · rw [sendings] at h
      split at h
      · exact tail h
      · rcases List.mem_cons.1 h with rfl | h
        · exact ⟨_, List.mem_cons_self, rfl⟩
        · exact tail h
    · exact tail h

namespace Channel

def together (t : Nat) (signals : List Signal) : List Event := signals.map (⟨t, ·⟩)

theorem applyAll_cons (c : Channel) (s : Signal) (signals : List Signal) :
    c.applyAll (s :: signals) = (c.apply s).applyAll signals := rfl

theorem applyAll_concat (c : Channel) (signals : List Signal) (s : Signal) :
    c.applyAll (signals ++ [s]) = (c.applyAll signals).apply s := by
  rw [applyAll_append]
  rfl

theorem applyAll_closed (c : Channel) (signals : List Signal) :
    (c.applyAll signals).closed = (c.closed || signals.any (· = .close)) := by
  induction signals generalizing c with
  | nil => simp [applyAll]
  | cons s signals ih =>
    rw [applyAll_cons, ih]
    cases s with
    | send v =>
      have hc : (c.apply (.send v)).closed = c.closed := by
        simp only [apply]
        split <;> rfl
      simp [hc]
    | close => simp [apply]

theorem applyAll_takes (c : Channel) (t : Nat) (signals : List Signal) :
    (c.applyAll signals).version = c.version + (sendings c.closed (together t signals)).length ∧
      (c.applyAll signals).value =
        ((sendings c.closed (together t signals)).getLast?.map (·.2)).getD c.value := by
  induction signals generalizing c with
  | nil => simp [applyAll, together, sendings]
  | cons s signals ih =>
    obtain ⟨hv, hl⟩ := ih (c.apply s)
    rw [applyAll_cons, hv, hl]
    cases s with
    | send v =>
      by_cases hc : c.closed
      · simp [apply, together, sendings, hc]
      · rw [Bool.not_eq_true] at hc
        have hs : sendings c.closed (together t (.send v :: signals)) =
            (t, v) :: sendings false (together t signals) := by simp [together, sendings, hc]
        have ha : c.apply (.send v) = { c with value := v, version := c.version + 1 } := by
          simp [apply, hc]
        rw [hs, ha, List.length_cons, List.getLast?_cons]
        dsimp only
        rw [hc]
        constructor
        · omega
        · cases (sendings false (together t signals)).getLast? <;> rfl
    | close => simp [apply, together, sendings]

theorem hides_applyAll (c : Channel) (t : Nat) (signals : List Signal) :
    (c.applyAll signals).hides c.version ↔
      (sendings c.closed (together t signals)).getLast?.map (·.2) = some .hidden := by
  obtain ⟨hv, hl⟩ := c.applyAll_takes t signals
  rw [hides, hv, hl]
  cases hs : sendings c.closed (together t signals) with
  | nil => simp
  | cons x xs => simp [List.getLast?_cons]

theorem firstHide_together (c : Channel) (t : Nat) (signals : List Signal) {rest : List Event}
    (later : ∀ e ∈ rest, t < e.time) :
    firstHide (sendings c.closed (together t signals ++ rest)) =
      if (c.applyAll signals).hides c.version then some t
      else firstHide (sendings (c.applyAll signals).closed rest) := by
  have hc : (c.closed || (together t signals).any (·.signal = .close)) =
      (c.applyAll signals).closed := by
    rw [applyAll_closed, together, List.any_map]
    rfl
  have hx : ∀ x ∈ sendings c.closed (together t signals), x.1 = t := by
    intro x h
    obtain ⟨e, he, ht⟩ := time_of_mem_sendings h
    obtain ⟨s, -, rfl⟩ := List.mem_map.1 he
    exact ht.symm
  have hy : ∀ y ∈ sendings (c.applyAll signals).closed rest, t < y.1 := by
    intro y h
    obtain ⟨e, he, ht⟩ := time_of_mem_sendings h
    exact ht ▸ later e he
  rw [sendings_append, hc, firstHide_append hx hy]
  simp only [c.hides_applyAll t signals]

theorem hiddenAmong_together (c : Channel) (done : List Signal) (e : Event) (rest : List Event)
    (ordered : (e :: rest).Pairwise (·.time ≤ ·.time)) :
    hiddenAmong c.version (c.applyAll done) (e :: rest) =
      firstHide (sendings c.closed (together e.time done ++ e :: rest)) := by
  induction rest generalizing c done e with
  | nil =>
    have hg : together e.time done ++ [e] = together e.time (done ++ [e.signal]) ++ [] := by
      simp [together]
    rw [hg, firstHide_together c _ _ (by simp), hiddenAmong, ← applyAll_concat]
    simp [hiddenAmong, sendings, firstHide_nil]
  | cons e' rest ih =>
    have hg : together e.time done ++ e :: e' :: rest =
        together e.time (done ++ [e.signal]) ++ e' :: rest := by simp [together]
    obtain ⟨least, ordered'⟩ := List.pairwise_cons.1 ordered
    rw [hiddenAmong, ← applyAll_concat]
    by_cases same : e'.time = e.time
    · simp only [List.head?_cons, Option.any_some, same, decide_true, ↓reduceIte]
      rw [ih c _ e' ordered', hg, same]
    · have after : ∀ x ∈ e' :: rest, e.time < x.time := by
        intro x hx
        have first : e.time < e'.time := by
          have := least e' List.mem_cons_self
          omega
        rcases List.mem_cons.1 hx with rfl | hx
        · exact first
        · exact Nat.lt_of_lt_of_le first ((List.pairwise_cons.1 ordered').1 x hx)
      have fresh := ih (c.applyAll (done ++ [e.signal])) [] e' ordered'
      simp only [List.head?_cons, Option.any_some, same, decide_false, Bool.false_eq_true, ↓reduceIte]
      rw [hg, firstHide_together c _ _ after]
      split
      · rfl
      · exact fresh

theorem hiddenFrom_eq (c : Channel) (now : Nat) (signals : List Signal) (ahead : List Event)
    (ordered : ahead.Pairwise (·.time ≤ ·.time)) (later : ∀ e ∈ ahead, now < e.time) :
    hiddenFrom c.version (c.applyAll signals) now ahead =
      firstHide (sendings c.closed (together now signals ++ ahead)) := by
  rw [firstHide_together c now signals later, hiddenFrom]
  split
  · rfl
  · cases ahead with
    | nil => rfl
    | cons e rest => exact hiddenAmong_together (c.applyAll signals) [] e rest ordered

theorem applyAll_of_closed {c : Channel} (h : c.closed) (signals : List Signal) : c.applyAll signals = c := by
  induction signals with
  | nil => rfl
  | cons s signals ih => rw [applyAll_cons, apply_of_closed h, ih]

theorem hiddenFrom_of_closed {c : Channel} (h : c.closed) (signals : List Signal) (now : Nat) (ahead : List Event) :
    hiddenFrom c.version (c.applyAll signals) now ahead = none := by
  rw [applyAll_of_closed h, hiddenFrom]
  have quiet : c.hides c.version = false := by simp [hides]
  rw [quiet, if_neg Bool.false_ne_true]
  induction ahead with
  | nil => rfl
  | cons e rest ih =>
    rw [hiddenAmong, apply_of_closed h, quiet]
    split
    · exact ih
    · exact ih

theorem hidden_of_subscribed {reports : Reports} (h : reports ≠ .none) (c : Channel) (signals : List Signal)
    (now : Nat) (ahead : List Event) :
    ((c.subscribe reports).map fun _ => c.version).bind (hiddenFrom · (c.applyAll signals) now ahead) =
      hiddenFrom c.version (c.applyAll signals) now ahead := by
  cases reports with
  | none => exact absurd rfl h
  | stale => rfl
  | fresh =>
    by_cases hc : c.closed
    · rw [hiddenFrom_of_closed hc]
      simp [subscribe, hc]
    · simp [subscribe, hc]

end Channel

end DeepLink
