import DeepLink.Proofs.Visitor.Nesting

namespace DeepLink

theorem Utf8.size_append (s t : List Char) : size (s ++ t) = size s + size t := by
  induction s with
  | nil => exact (Nat.zero_add _).symm
  | cons c s ih =>
    have cons (s : List Char) : size (c :: s) = c.utf8Size + size s := rfl
    rw [List.cons_append, cons, cons, ih, Nat.add_assoc]

namespace UserAgent

def nest (depth : Nat) (c : Char) : Nat :=
  if c = '(' then depth + 1 else if c = ')' then depth - 1 else depth

def depth (s : List Char) : Nat := s.foldl nest 0

theorem nest_plain {c : Char} (ho : c ≠ '(') (hc : c ≠ ')') (d : Nat) : nest d c = d := by
  rw [nest, if_neg ho, if_neg hc]

theorem opening_of_nest {c : Char} {d : Nat} (h : d < nest d c) : c = '(' := by
  by_cases ho : c = '('
  · exact ho
  · by_cases hc : c = ')'
    · rw [nest, if_neg ho, if_pos hc] at h
      omega
    · rw [nest_plain ho hc] at h
      omega

theorem Balanced.foldl_nest {s : List Char} (h : Balanced s) (d : Nat) : s.foldl nest d = d := by
  induction h generalizing d with
  | nil => rfl
  | plain ho hc _ ih => rw [List.foldl_cons, nest_plain ho hc, ih]
  | pair _ _ ih iht =>
    rw [List.foldl_cons, List.foldl_append, ih, List.foldl_cons]
    exact iht d

def Within (d : Nat) (s : List Char) : Prop := ∀ q, q <+: s → q.foldl nest d ≤ depthLimit

theorem within_nil {d : Nat} : Within d [] ↔ d ≤ depthLimit := by
  constructor
  · intro h
    exact h [] List.prefix_rfl
  · intro h q hq
    rw [List.prefix_nil.1 hq]
    exact h

theorem within_cons {d : Nat} {c : Char} {s : List Char} : Within d (c :: s) ↔ d ≤ depthLimit ∧ Within (nest d c) s := by
  constructor
  · intro h
    refine ⟨h [] List.nil_prefix, ?_⟩
    intro q hq
    exact h (c :: q) (List.cons_prefix_cons.2 ⟨rfl, hq⟩)
  · rintro ⟨hd, h⟩ q hq
    rcases List.prefix_cons_iff.1 hq with rfl | ⟨t, rfl, ht⟩
    · exact hd
    · exact h t ht

theorem Within.start {d : Nat} {s : List Char} (h : Within d s) : d ≤ depthLimit := h [] List.nil_prefix

theorem within_append {d : Nat} {s t : List Char} : Within d (s ++ t) ↔ Within d s ∧ Within (s.foldl nest d) t := by
  induction s generalizing d with
  | nil =>
    rw [within_nil]
    exact ⟨fun h => ⟨h.start, h⟩, And.right⟩
  | cons c s ih => rw [List.cons_append, within_cons, within_cons, ih, and_assoc, List.foldl_cons]

theorem within_of_forall {s : List Char} (h : ∀ c ∈ s, c ≠ '(' ∧ c ≠ ')') {d : Nat} (hd : d ≤ depthLimit) :
    Within d s := by
  intro q hq
  have balanced := balanced_of_forall fun c hc => h c (hq.subset hc)
  rw [balanced.foldl_nest]
  exact hd

theorem tooDeep?_cons {d : Nat} (hd : d ≤ depthLimit) (offset : Nat) (c : Char) (s : List Char) :
    tooDeep? d offset (c :: s) =
      if depthLimit < nest d c then some offset else tooDeep? (nest d c) (offset + c.utf8Size) s := by
  rw [tooDeep?]
  by_cases ho : c = '('
  · subst ho
    rfl
  · have within : ¬ depthLimit < nest d c := by
      intro h
      exact ho (opening_of_nest (Nat.lt_of_le_of_lt hd h))
    rw [if_neg ho, if_neg within]
    by_cases hc : c = ')'
    · subst hc
      rfl
    · rw [if_neg hc, nest_plain ho hc]

theorem tooDeep?_eq_none_iff {d : Nat} (hd : d ≤ depthLimit) (offset : Nat) (s : List Char) :
    tooDeep? d offset s = none ↔ Within d s := by
  induction s generalizing d offset with
  | nil =>
    rw [within_nil]
    exact iff_of_true rfl hd
  | cons c s ih =>
    rw [tooDeep?_cons hd, within_cons]
    by_cases h : depthLimit < nest d c
    · rw [if_pos h]
      apply iff_of_false nofun
      intro within
      exact Nat.not_le_of_lt h within.2.start
    · rw [if_neg h, ih (Nat.le_of_not_lt h), and_iff_right hd]

def ExceedsAt (d : Nat) (s : List Char) (place : Nat) : Prop :=
  ∃ p r, s = p ++ '(' :: r ∧ Within d p ∧ depthLimit < (p ++ ['(']).foldl nest d ∧ place = Utf8.size p

theorem exceedsAt_cons {d : Nat} {c : Char} {s : List Char} (hd : d ≤ depthLimit) (h : nest d c ≤ depthLimit) {place : Nat} :
    ExceedsAt d (c :: s) place ↔ ∃ n, ExceedsAt (nest d c) s n ∧ place = c.utf8Size + n := by
  constructor
  · rintro ⟨p, r, hs, within, beyond, rfl⟩
    rcases List.cons_eq_append_iff.1 hs with ⟨rfl, he⟩ | ⟨p, rfl, rfl⟩
    · obtain ⟨rfl, rfl⟩ := List.cons.inj he
      exact absurd beyond (Nat.not_lt_of_le h)
    · exact ⟨Utf8.size p, ⟨p, r, rfl, (within_cons.1 within).2, beyond, rfl⟩, rfl⟩
  · rintro ⟨n, ⟨p, r, rfl, within, beyond, rfl⟩, rfl⟩
    exact ⟨c :: p, r, rfl, within_cons.2 ⟨hd, within⟩, beyond, rfl⟩

theorem tooDeep?_eq_some_iff {d : Nat} (hd : d ≤ depthLimit) (offset : Nat) (s : List Char) (n : Nat) :
    tooDeep? d offset s = some n ↔ ∃ place, ExceedsAt d s place ∧ n = offset + place := by
  induction s generalizing d offset with
  | nil =>
    apply iff_of_false nofun
    rintro ⟨_, ⟨p, r, hs, _⟩, _⟩
    cases p <;> cases hs
  | cons c s ih =>
    rw [tooDeep?_cons hd]
    by_cases h : depthLimit < nest d c
    · obtain rfl := opening_of_nest (Nat.lt_of_le_of_lt hd h)
      rw [if_pos h, Option.some.injEq]
      constructor
      · rintro rfl
        exact ⟨0, ⟨[], s, rfl, within_nil.2 hd, h, rfl⟩, rfl⟩
      · rintro ⟨_, ⟨p, r, hs, within, -, rfl⟩, rfl⟩
        rcases List.cons_eq_append_iff.1 hs with ⟨rfl, -⟩ | ⟨p, rfl, -⟩
        · rfl
        · exact absurd (within_cons.1 within).2.start (Nat.not_le_of_lt h)
    · have within := Nat.le_of_not_lt h
      rw [if_neg h, ih within]
      constructor
      · rintro ⟨place, exceeds, rfl⟩
        exact ⟨_, (exceedsAt_cons hd within).2 ⟨place, exceeds, rfl⟩, Nat.add_assoc _ _ _⟩
      · rintro ⟨_, exceeds, rfl⟩
        obtain ⟨place, later, rfl⟩ := (exceedsAt_cons hd within).1 exceeds
        exact ⟨place, later, (Nat.add_assoc _ _ _).symm⟩

end UserAgent

end DeepLink
