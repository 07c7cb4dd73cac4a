import DeepLink.Visitor.UserAgent
import Mathlib.Tactic.Common

namespace DeepLink.UserAgent

inductive Balanced : List Char → Prop where
  | nil : Balanced []
  | plain {c : Char} {s : List Char} (ho : c ≠ '(') (hc : c ≠ ')') (rest : Balanced s) : Balanced (c :: s)
  | pair {s t : List Char} (inner : Balanced s) (rest : Balanced t) : Balanced ('(' :: (s ++ ')' :: t))

theorem balanced_of_forall {s : List Char} (h : ∀ c ∈ s, c ≠ '(' ∧ c ≠ ')') : Balanced s := by
  induction s with
  | nil => exact .nil
  | cons c s ih =>
    rw [List.forall_mem_cons] at h
    exact .plain h.1.1 h.1.2 (ih h.2)

theorem Balanced.append {s t : List Char} (h : Balanced s) (ht : Balanced t) : Balanced (s ++ t) := by
  induction h with
  | nil => exact ht
  | plain ho hc _ ih => exact .plain ho hc ih
  | @pair a b inner _ _ ih =>
    rw [List.cons_append, List.append_assoc]
    exact .pair inner ih

/-- A text is parted before a parenthesis that has no partner: between partners all is balanced. -/
inductive Unmatched : List Char → List Char → Prop where
  | closing {p r : List Char} (h : ∀ a b, p = a ++ '(' :: b → ¬ Balanced b) : Unmatched p (')' :: r)
  | opening {p r : List Char} (h : ∀ a b, r = a ++ ')' :: b → ¬ Balanced a) : Unmatched p ('(' :: r)

namespace Unmatched

theorem ne_nil {p q : List Char} (h : Unmatched p q) : q ≠ [] := by
  rintro rfl
  cases h

theorem of_append {x p q : List Char} (h : Unmatched (x ++ p) q) : Unmatched p q := by
  cases h with
  | closing h =>
    apply Unmatched.closing
    rintro a b rfl
    exact h (x ++ a) b (List.append_assoc x a _).symm
  | opening h => exact .opening h

theorem of_append_cons {p q y : List Char} {c : Char} (h : Unmatched p (c :: q ++ y)) : Unmatched p (c :: q) := by
  cases h with
  | closing h => exact .closing h
  | opening h =>
    apply Unmatched.opening
    rintro a b rfl
    exact h a (b ++ y) (List.append_assoc a _ y)

end Unmatched

theorem Balanced.matched {s : List Char} (h : Balanced s) {p q : List Char} (hs : s = p ++ q) : ¬ Unmatched p q := by
  intro hu
  induction h generalizing p q with
  | nil => exact hu.ne_nil (List.append_eq_nil_iff.1 hs.symm).2
  | plain ho hc _ ih =>
    rcases List.cons_eq_append_iff.1 hs with ⟨rfl, rfl⟩ | ⟨p, rfl, rfl⟩
    · cases hu with
      | closing => exact hc rfl
      | opening => exact ho rfl
    · exact ih rfl (hu.of_append (x := [_]))
  | @pair s t inner _ ih iht =>
    have closed : ¬ Unmatched ('(' :: s) (')' :: t) := by
      intro hu
      cases hu with
      | closing h => exact h [] s rfl inner
    rcases List.cons_eq_append_iff.1 hs with ⟨rfl, rfl⟩ | ⟨p, rfl, hp⟩
    · cases hu with
      | opening h => exact h s t rfl inner
    -- the parting is at the closing parenthesis of the pair, after it, or before it
    · rcases List.append_eq_append_iff.1 hp with ⟨m, rfl, hm⟩ | ⟨m, rfl, rfl⟩
      · rcases List.cons_eq_append_iff.1 hm with ⟨rfl, rfl⟩ | ⟨m, rfl, rfl⟩
        · rw [List.append_nil] at hu
          exact closed hu
        · rw [List.append_cons, ← List.cons_append] at hu
          exact iht rfl hu.of_append
      · cases m with
        | nil =>
          rw [List.append_nil] at closed
          exact closed hu
        | cons c m => exact ih rfl (hu.of_append_cons.of_append (x := ['(']))

inductive Halted : List Char → Prop where
  | done : Halted []
  | closing (r : List Char) : Halted (')' :: r)
  | opening {r : List Char} (h : ∀ a b, r = a ++ ')' :: b → ¬ Balanced a) : Halted ('(' :: r)

theorem afterInner_append {a : List Char} (h : Balanced a) (r : List Char) : afterInner (a ++ r) = afterInner r := by
  induction h generalizing r with
  | nil => rfl
  | plain ho hc _ ih => rw [List.cons_append, afterInner_plain ho hc, ih]
  | @pair s t _ _ ih iht =>
    rw [List.cons_append, List.append_assoc, List.cons_append, afterInner_open, iht]
    rw [ih, afterInner_close]

theorem afterInner_induction {motive : List Char → Prop} (nil : motive []) (close : ∀ s, motive (')' :: s))
    (closed : ∀ s r, afterInner s = ')' :: r → motive s → motive r → motive ('(' :: s))
    (unclosed : ∀ s, (∀ r, afterInner s ≠ ')' :: r) → motive s → motive ('(' :: s))
    (plain : ∀ c s, c ≠ '(' → c ≠ ')' → motive s → motive (c :: s)) (s : List Char) : motive s := by
  induction s using skipInner.induct with
  | case1 => exact nil
  | case2 s => exact close s
  | case3 s r found _ _ ih ihr => exact closed s r (afterClose?_eq_some_iff.1 found) ih ihr
  | case4 s missing _ ih =>
    apply unclosed s ?_ ih
    intro r hr
    have found := afterClose?_eq_some_iff.2 hr
    rw [afterInner, missing] at found
    cases found
  | case5 c s hc ho ih => exact plain c s ho hc ih

theorem afterInner_parts (s : List Char) : ∃ a, Balanced a ∧ s = a ++ afterInner s ∧ Halted (afterInner s) := by
  induction s using afterInner_induction with
  | nil =>
    rw [afterInner_nil]
    exact ⟨[], .nil, rfl, .done⟩
  | close s =>
    rw [afterInner_close]
    exact ⟨[], .nil, rfl, .closing s⟩
  | closed s r hr ih ihr =>
    obtain ⟨a, ha, hs, -⟩ := ih
    obtain ⟨b, hb, he, halted⟩ := ihr
    rw [afterInner_open hr]
    refine ⟨'(' :: (a ++ ')' :: b), .pair ha hb, ?_, halted⟩
    rw [hr] at hs
    rw [List.cons_append, List.append_assoc, List.cons_append, ← he, ← hs]
  | unclosed s stuck =>
    rw [afterInner_stuck stuck]
    refine ⟨[], .nil, rfl, .opening ?_⟩
    rintro a b rfl ha
    apply stuck b
    rw [afterInner_append ha, afterInner_close]
  | plain c s ho hc ih =>
    obtain ⟨a, ha, hs, halted⟩ := ih
    rw [afterInner_plain ho hc]
    refine ⟨c :: a, .plain ho hc ha, ?_, halted⟩
    rw [List.cons_append, ← hs]

theorem comment?_eq_some_iff {s inner r : List Char} :
    comment? s = some (inner, r) ↔ Balanced inner ∧ s = inner ++ ')' :: r := by
  rw [comment?, Option.map_eq_some_iff]
  constructor
  · rintro ⟨t, closed, he⟩
    rw [afterClose?_eq_some_iff] at closed
    obtain ⟨a, ha, hs, -⟩ := afterInner_parts s
    rw [closed] at hs
    rw [Prod.mk.injEq] at he
    obtain ⟨rfl, rfl⟩ := he
    have taken : s.take (s.length - (t.length + 1)) = a := by
      have length : s.length - (t.length + 1) = a.length := by
        rw [hs, List.length_append, List.length_cons]
        omega
      rw [length, hs, List.take_left']
      rfl
    rw [taken]
    exact ⟨ha, hs⟩
  · rintro ⟨balanced, rfl⟩
    refine ⟨r, ?_, ?_⟩
    · rw [afterInner_append balanced, afterInner_close]
      rfl
    · simp

theorem comment?_eq_none_iff {s : List Char} : comment? s = none ↔ ∀ a b, s = a ++ ')' :: b → ¬ Balanced a := by
  rw [Option.eq_none_iff_forall_ne_some]
  constructor
  · intro h a b hs balanced
    exact h (a, b) (comment?_eq_some_iff.2 ⟨balanced, hs⟩)
  · rintro h ⟨a, b⟩ found
    obtain ⟨balanced, hs⟩ := comment?_eq_some_iff.1 found
    exact h a b hs balanced

end DeepLink.UserAgent
