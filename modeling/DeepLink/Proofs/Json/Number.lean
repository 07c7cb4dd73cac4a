import DeepLink.Json.Parser
import DeepLink.Json.Printer
import Mathlib.Tactic.Common

namespace DeepLink.Json.Reader

def Stops (s : List Char) : Prop :=
  ∀ c ∈ s.head?, c.isDigit = false ∧ c ≠ '.' ∧ c ≠ 'e' ∧ c ≠ 'E'

theorem stops_nil : Stops [] := by simp [Stops]

theorem stops_cons {c : Char} (s : List Char) (h : c.isDigit = false ∧ c ≠ '.' ∧ c ≠ 'e' ∧ c ≠ 'E') :
    Stops (c :: s) := by
  intro d hd
  cases hd
  exact h

theorem Stops.takeWhile_append {t : List Char} (h : Stops t) (s : List Char) :
    (s ++ t).takeWhile Char.isDigit = s.takeWhile Char.isDigit := by
  induction s with
  | nil =>
    cases t with
    | nil => rfl
    | cons c t => simp [(h c rfl).1]
  | cons c s ih => cases hc : c.isDigit <;> simp [hc, ih]

theorem Stops.dropWhile_append {t : List Char} (h : Stops t) (s : List Char) :
    (s ++ t).dropWhile Char.isDigit = s.dropWhile Char.isDigit ++ t := by
  induction s with
  | nil =>
    cases t with
    | nil => rfl
    | cons c t => simp [(h c rfl).1]
  | cons c s ih => cases hc : c.isDigit <;> simp [hc, ih]

theorem Stops.exponentDigits_append {t : List Char} (h : Stops t) (value : Nat) (s : List Char) :
    exponentDigits value (s ++ t) =
      ((exponentDigits value s).1, (exponentDigits value s).2.1 ++ t, (exponentDigits value s).2.2) := by
  fun_induction exponentDigits value s with
  | case1 value =>
    cases t with
    | nil => rfl
    | cons c t => simp [exponentDigits, (h c rfl).1]
  | case2 value c s hc next hn ih => rw [List.cons_append, exponentDigits, if_pos hc, if_pos hn, ih]
  | case3 value c s hc next hn => rw [List.cons_append, exponentDigits, if_pos hc, if_neg hn]
  | case4 value c s hc => rw [List.cons_append, exponentDigits, if_neg hc]

theorem exponentSign_append {s : List Char} (h : s ≠ []) (t : List Char) :
    exponentSign (s ++ t) = ((exponentSign s).1, (exponentSign s).2 ++ t) := by
  fun_cases exponentSign s with
  | case1 => rfl
  | case2 => rfl
  | case3 hp hm =>
    cases s with
    | nil => exact (h rfl).elim
    | cons c s =>
      unfold exponentSign
      split <;> simp_all

theorem finish_append {negative : Bool} {significand : Nat} {exponent : Int} {s r : List Char} {n : Number}
    (h : finish negative significand exponent s = .ok (n, r)) (t : List Char) :
    finish negative significand exponent (s ++ t) = .ok (n, r ++ t) := by
  have hr := finish_rest h
  subst hr
  simp only [finish] at h ⊢
  split at h
  · simp_all
  · simp at h

theorem Stops.exponent_append {t : List Char} (ht : Stops t) {negative : Bool} {significand : Nat} {scale : Int}
    {s r : List Char} {n : Number} (h : exponent negative significand scale s = .ok (n, r)) :
    exponent negative significand scale (s ++ t) = .ok (n, r ++ t) := by
  have hs : s ≠ [] := by
    rintro rfl
    simp [exponent, exponentSign] at h
  unfold exponent at h ⊢
  rw [exponentSign_append hs]
  generalize exponentSign s = sign at h ⊢
  obtain ⟨down, u⟩ := sign
  cases u with
  | nil => simp at h
  | cons c u =>
    simp only [List.cons_append] at h ⊢
    split at h
    · next hc =>
      rw [if_pos hc, ← List.cons_append, ht.exponentDigits_append]
      generalize exponentDigits 0 (c :: u) = digits at h ⊢
      obtain ⟨m, v, complete⟩ := digits
      cases complete with
      | true => exact finish_append h t
      | false =>
        simp only at h ⊢
        split at h
        · simp at h
        · next hm =>
          rw [if_neg hm, ht.dropWhile_append]
          exact finish_append h t
    · simp at h

theorem Stops.append_ne {t : List Char} (ht : Stops t) {s : List Char} {c : Char}
    (hc : c = '.' ∨ c = 'e' ∨ c = 'E') (hs : ∀ u, s = c :: u → False) (u : List Char) : s ++ t ≠ c :: u := by
  intro h
  cases s with
  | nil =>
    obtain ⟨-, point, lower, upper⟩ := ht c (by rw [List.nil_append] at h; simp [h])
    rcases hc with hc | hc | hc
    · exact point hc
    · exact lower hc
    · exact upper hc
  | cons d s =>
    rw [List.cons_append, List.cons.injEq] at h
    exact hs s (by rw [h.1])

theorem Stops.fraction_append {t : List Char} (ht : Stops t) {negative : Bool} {significand dropped : Nat}
    {s r : List Char} {n : Number} (h : fraction negative significand dropped s = .ok (n, r)) :
    fraction negative significand dropped (s ++ t) = .ok (n, r ++ t) := by
  unfold fraction at h
  split at h
  · next s =>
    simp only [List.cons_append, fraction, ht.takeWhile_append, ht.dropWhile_append]
    simp only at h
    split at h
    · simp at h
    · next some_digit =>
      rw [if_neg some_digit]
      split at h
      · next u hu =>
        rw [hu]
        exact ht.exponent_append h
      · next u hu =>
        rw [hu]
        exact ht.exponent_append h
      · next lower upper =>
        split
        · next u hu => exact (ht.append_ne (.inr (.inl rfl)) lower u hu).elim
        · next u hu => exact (ht.append_ne (.inr (.inr rfl)) upper u hu).elim
        · exact finish_append h t
  · exact ht.exponent_append h
  · exact ht.exponent_append h
  · next point lower upper =>
    unfold fraction
    split
    · next u hu => exact (ht.append_ne (.inl rfl) point u hu).elim
    · next u hu => exact (ht.append_ne (.inr (.inl rfl)) lower u hu).elim
    · next u hu => exact (ht.append_ne (.inr (.inr rfl)) upper u hu).elim
    · split at h
      · next hd =>
        rw [if_pos hd]
        exact finish_append h t
      · next hd =>
        rw [if_neg hd]
        split at h
        · next hn =>
          rw [if_pos hn]
          cases h
          rfl
        · next hn =>
          rw [if_neg hn]
          split at h
          · next hb =>
            rw [if_pos hb]
            cases h
            rfl
          · next hb =>
            rw [if_neg hb]
            cases h
            rfl

theorem Stops.number_append {t : List Char} (ht : Stops t) {negative : Bool} {s r : List Char} {n : Number}
    (h : number negative s = .ok (n, r)) : number negative (s ++ t) = .ok (n, r ++ t) := by
  unfold number at h
  split at h
  · simp at h
  · split at h
    · next c s =>
      split at h
      · simp at h
      · next hc =>
        simp only [List.cons_append, number, if_neg hc]
        exact ht.fraction_append h
    · have zero := ht.fraction_append h
      cases t with
      | nil => exact zero
      | cons d t => simpa [number, (ht d rfl).1] using zero
  · next c s hz =>
    split at h
    · next hc =>
      rw [List.cons_append, number]
      · rw [if_pos hc, ← List.cons_append, ht.takeWhile_append, ht.dropWhile_append]
        exact ht.fraction_append h
      · exact hz
    · simp at h

def Solid (s : List Char) : Prop := ∀ c ∈ s, isSpace c = false

instance (s : List Char) : Decidable (Solid s) := List.decidableBAll (isSpace · = false) s

theorem Solid.append {s t : List Char} (hs : Solid s) (ht : Solid t) : Solid (s ++ t) := by
  intro c hc
  rcases List.mem_append.1 hc with hc | hc
  · exact hs c hc
  · exact ht c hc

theorem Solid.cons {c : Char} {s : List Char} (hc : isSpace c = false) (hs : Solid s) : Solid (c :: s) :=
  Solid.append (List.forall_mem_singleton.2 hc) hs

theorem Solid.skip_eq {s : List Char} (h : Solid s) : skip s = s := by
  cases s with
  | nil => rfl
  | cons c s => exact List.dropWhile_cons_of_neg (by simp [h c List.mem_cons_self])

theorem isSpace_of_isDigit {c : Char} (h : c.isDigit) : isSpace c = false := by
  simp only [isSpace, Bool.or_eq_false_iff, decide_eq_false_iff_not]
  refine ⟨⟨⟨?_, ?_⟩, ?_⟩, ?_⟩ <;> · rintro rfl; exact absurd h (by decide)

theorem solid_numeral (n : Nat) : Solid (Decimal.numeral n) := fun _ hc =>
  isSpace_of_isDigit (Nat.isDigit_of_mem_toDigits (by decide) (by decide) hc)

theorem solid_zeros (k : Nat) : Solid (List.replicate k '0') := by
  intro c hc
  rw [List.eq_of_mem_replicate hc]
  rfl

theorem solid_plain (d : Decimal) : Solid d.plain := by
  have digits := solid_numeral d.digits
  unfold Decimal.plain
  simp only
  split
  · split
    · exact digits
    · exact digits.append (solid_zeros _)
  · split
    · refine Solid.append (fun c hc => digits c (List.mem_of_mem_take hc)) (Solid.cons rfl ?_)
      exact fun c hc => digits c (List.mem_of_mem_drop hc)
    · exact Solid.cons rfl (Solid.cons rfl ((solid_zeros _).append digits))

theorem solid_scientific (d : Decimal) : Solid d.scientific := by
  have digits := solid_numeral d.digits
  unfold Decimal.scientific
  refine Solid.append ?_ (Solid.cons rfl (Solid.cons ?_ (solid_numeral _)))
  · split
    · exact List.forall_mem_nil _
    · next c hc => exact hc ▸ digits
    · next c cs _ hc =>
      rw [hc] at digits
      exact Solid.cons (digits c List.mem_cons_self)
        (Solid.cons rfl fun x hx => digits x (List.mem_cons_of_mem c hx))
  · split <;> rfl

theorem solid_compact (d : Decimal) : Solid d.compact := by
  unfold Decimal.compact
  split
  · decide
  split
  · split
    · exact solid_plain d
    · exact (solid_plain d).append (by decide)
  · exact solid_scientific d

theorem solid_number (n : Number) : Solid n.chars := by
  cases n with
  | integer i =>
    rw [Number.chars]
    split
    · exact Solid.cons rfl (solid_numeral _)
    · exact solid_numeral _
  | real x =>
    show Solid x.compact
    unfold Binary64.compact
    split
    · next negative m e =>
      cases negative with
      | true => exact Solid.cons rfl (solid_compact _)
      | false => exact solid_compact _
    · decide

end DeepLink.Json.Reader
