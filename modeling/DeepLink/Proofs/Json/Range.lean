import DeepLink.Proofs.Json.Value
import DeepLink.Proofs.Number.Finite
import Mathlib.Data.List.TakeWhile

namespace DeepLink

namespace Json

inductive InRange : Json → Prop where
  | null : InRange null
  | bool (b : Bool) : InRange (bool b)
  | number {n : Number} (finite : n.toBinary.isFinite) : InRange (number n)
  | string (s : String) : InRange (string s)
  | array {items : List Json} (each : ∀ v ∈ items, InRange v) : InRange (array items)
  | object {members : List (String × Json)} (each : ∀ m ∈ members, InRange m.2) : InRange (object members)

theorem InRange.isFinite {n : Number} (h : InRange (.number n)) : n.toBinary.isFinite := by
  cases h with
  | number finite => exact finite

namespace Reader

def Yields {α : Type} (P : α → Prop) (read : List Char → Reading α) : Prop :=
  ∀ s a r, read s = .ok (a, r) → P a

theorem absorb_lt {significand : Nat} (h : significand < 2 ^ 64) (ds : List Char) :
    (absorb significand ds).1 < 2 ^ 64 := by
  fun_induction absorb significand ds with
  | case1 => exact h
  | case2 significand d ds next fits ih => exact ih fits
  | case3 => exact h

theorem yields_finish {negative : Bool} {significand : Nat} {exponent : Int} (word : significand < 2 ^ 64) :
    Yields (·.toBinary.isFinite) (finish negative significand exponent) := by
  intro s n r h
  simp only [finish] at h
  split at h
  · next x found =>
    have finite := Binary64.ofDecimal_isFinite word found
    cases h
    cases negative with
    | false => exact finite
    | true => exact Binary64.neg_isFinite.trans finite
  · cases h

theorem yields_exponent {negative : Bool} {significand : Nat} {scale : Int} (word : significand < 2 ^ 64) :
    Yields (·.toBinary.isFinite) (exponent negative significand scale) := by
  intro s n r h
  unfold exponent at h
  split at h
  split at h
  · cases h
  split at h
  · split at h
    · exact yields_finish word _ _ _ h
    · split at h
      · cases h
      · exact yields_finish (by decide) _ _ _ h
  · cases h

theorem yields_fraction {negative : Bool} {significand dropped : Nat} (word : significand < 2 ^ 64) :
    Yields (·.toBinary.isFinite) (fraction negative significand dropped) := by
  intro s n r h
  unfold fraction at h
  split at h
  · next t =>
    have absorbed := absorb_lt word (t.takeWhile Char.isDigit)
    simp only at h
    split at h
    · cases h
    · split at h
      · exact yields_exponent absorbed _ _ _ h
      · exact yields_exponent absorbed _ _ _ h
      · exact yields_finish absorbed _ _ _ h
  · exact yields_exponent word _ _ _ h
  · exact yields_exponent word _ _ _ h
  · split at h
    · exact yields_finish word _ _ _ h
    · split at h
      · cases h
        apply Binary64.ofInt_isFinite
        omega
      · split at h
        · cases h
          apply Binary64.ofInt_isFinite
          omega
        · cases h
          exact Binary64.neg_isFinite.trans (Binary64.ofNat_bounded word.le).isFinite

theorem yields_number (negative : Bool) : Yields (·.toBinary.isFinite) (number negative) := by
  intro s n r h
  unfold number at h
  split at h
  · cases h
  · split at h
    · split at h
      · cases h
      · exact yields_fraction (by decide) _ _ _ h
    · exact yields_fraction (by decide) _ _ _ h
  · split at h
    · exact yields_fraction (absorb_lt (by decide) _) _ _ _ h
    · cases h

theorem yields_pieces {α : Type} {P : α → Prop} {k : Enclosure} {piece : Nat → Reader α}
    (h : ∀ i, Yields P (piece i).read) (i : Nat) : Yields (∀ a ∈ ·, P a) (pieces k piece i) := by
  intro s as r read
  fun_induction pieces k piece i s generalizing as with
  | case3 i s a t ht =>
    cases read
    exact List.forall_mem_singleton.2 (h i _ _ _ ht)
  | case6 i s a t ht u _ _ d w _ _ ih =>
    obtain ⟨bs, rest, rfl⟩ := Reading.as_eq_ok.1 read
    exact List.forall_mem_cons.2 ⟨h i _ _ _ ht, ih bs rest⟩
  | _ => cases read

theorem yields_member {value : String → Reader Json} (h : ∀ name, Yields InRange (value name).read) :
    Yields (InRange ·.2) (member value) := by
  intro s m r read
  unfold member at read
  split at read
  · split at read
    · cases read
    · split at read
      · cases read
      · obtain ⟨v, hv, rfl⟩ := Reading.as_eq_ok.1 read
        exact h _ _ _ _ hv
      · cases read
  · cases read

theorem yields_array {item : Nat → Reader Json} (h : ∀ i, Yields InRange (item i).read) :
    Yields InRange (array item) := by
  intro s v r read
  unfold array at read
  split at read
  · cases read
  · cases read
    exact .array (List.forall_mem_nil _)
  · obtain ⟨items, each, rfl⟩ := Reading.as_eq_ok.1 read
    exact .array (yields_pieces h 0 _ _ _ each)

theorem yields_object {value : String → Reader Json} (h : ∀ name, Yields InRange (value name).read) :
    Yields InRange (object value) := by
  intro s v r read
  unfold object at read
  split at read
  · cases read
  · cases read
    exact .object (List.forall_mem_nil _)
  · obtain ⟨members, each, rfl⟩ := Reading.as_eq_ok.1 read
    exact .object (yields_pieces (fun _ => yields_member h) 0 _ _ _ each)

theorem yields_valueOf {below : Below} (items : ∀ b ∈ below, ∀ i, Yields InRange (b.1 i).read)
    (members : ∀ b ∈ below, ∀ name, Yields InRange (b.2 name).read) : Yields InRange (valueOf below) := by
  intro s v r read
  unfold valueOf at read
  split at read
  · cases read
  · rw [literal_value read]
    exact .null
  · rw [literal_value read]
    exact .bool true
  · rw [literal_value read]
    exact .bool false
  · obtain ⟨cs, -, rfl⟩ := Reading.as_eq_ok.1 read
    exact .string _
  · obtain ⟨n, hn, rfl⟩ := Reading.as_eq_ok.1 read
    exact .number (yields_number true _ _ _ hn)
  · split at read
    · exact yields_array (items _ rfl) _ _ _ read
    · cases read
  · split at read
    · exact yields_object (members _ rfl) _ _ _ read
    · cases read
  · split at read
    · obtain ⟨n, hn, rfl⟩ := Reading.as_eq_ok.1 read
      exact .number (yields_number false _ _ _ hn)
    · cases read

theorem yields_nothing : Yields InRange nothing.read := by
  intro s v r read
  unfold nothing at read
  simp only at read
  cases hs : ignored s with
  | error e => rw [hs] at read; cases read
  | ok t =>
    rw [hs] at read
    cases read
    exact .null

theorem yields_value (depth : Nat) (form : Form) : Yields InRange (value depth form).read := by
  induction depth generalizing form with
  | zero =>
    rw [read_zero]
    exact yields_valueOf (fun _ h => nomatch h) (fun _ h => nomatch h)
  | succ depth ih =>
    have member (name : String) : Yields InRange ((form.member? name).elim nothing (value depth)).read := by
      cases form.member? name with
      | none => exact yields_nothing
      | some wanted => exact ih wanted
    rw [read_succ]
    apply yields_valueOf
    · rintro b ⟨⟩ i
      exact ih (form.item i)
    · rintro b ⟨⟩ name
      exact member name

end Reader

theorem parseAs_inRange {form : Form} {text : String} {v : Json} (h : parseAs form text = .ok v) : v.InRange := by
  obtain ⟨r, read, -⟩ := Reader.parseAs_eq_ok.1 h
  exact Reader.yields_value _ _ _ _ _ read

theorem decode?_eq_some_iff {α : Type} {form : Form} {read : Json → Option α} {text : String} {x : α} :
    decode? form read text = some x ↔ ∃ v, parseAs form text = .ok v ∧ read v = some x := by
  unfold decode?
  cases parseAs form text with
  | error e => simp [Except.toOption]
  | ok v => simp [Except.toOption]

end Json

theorem Decimal.head_numeral {n : Nat} (positive : 0 < n) : (numeral n).head? ≠ some '0' := by
  induction n using Nat.strongRecOn with
  | ind n ih =>
    rw [numeral, Nat.toDigits_eq_if (by decide)]
    split
    · next one_digit =>
      have digit : ∀ d < 10, 0 < d → [d.digitChar].head? ≠ some '0' := by decide
      exact digit n one_digit positive
    · next more =>
      have first := ih (n / 10) (by omega) (by omega)
      rw [List.head?_append_of_ne_nil _ Nat.toDigits_ne_nil]
      exact first

theorem Decimal.numeral_ne_nil (n : Nat) : numeral n ≠ [] := Nat.toDigits_ne_nil

namespace Json

namespace Reader

theorem le_ofDigitChars (ds : List Char) (n : Nat) : n ≤ Nat.ofDigitChars 10 ds n := by
  induction ds generalizing n with
  | nil => exact Nat.le_refl n
  | cons d ds ih =>
    rw [Nat.ofDigitChars_cons]
    have := ih (10 * n + (d.toNat - '0'.toNat))
    omega

theorem absorb_eq {ds : List Char} {n : Nat} (h : Nat.ofDigitChars 10 ds n < 2 ^ 64) :
    absorb n ds = (Nat.ofDigitChars 10 ds n, 0) := by
  induction ds generalizing n with
  | nil => rfl
  | cons d ds ih =>
    have value : n * 10 + digitValue d = 10 * n + (d.toNat - '0'.toNat) := by
      rw [Nat.mul_comm]
      rfl
    rw [Nat.ofDigitChars_cons] at h ⊢
    have fits := Nat.lt_of_le_of_lt (le_ofDigitChars ds _) h
    rw [absorb, value]
    exact (if_pos fits).trans (ih h)

theorem number_numeral {n : Nat} (word : n < 2 ^ 64) :
    number false (Decimal.numeral n) = .ok (.integer n, []) := by
  by_cases zero : n = 0
  · rw [zero]
    rfl
  · have digits (c : Char) (hc : c ∈ Decimal.numeral n) : c.isDigit :=
      Nat.isDigit_of_mem_toDigits (by decide) (by decide) hc
    have value : Nat.ofDigitChars 10 (Decimal.numeral n) 0 = n := Nat.ofDigitChars_ten_toDigits
    have absorbed : absorb 0 (Decimal.numeral n) = (n, 0) := by
      rw [absorb_eq (by rwa [value]), value]
    have first := Decimal.head_numeral (Nat.pos_of_ne_zero zero)
    have taken : (Decimal.numeral n).takeWhile Char.isDigit = Decimal.numeral n :=
      List.takeWhile_eq_self_iff.2 digits
    have left : (Decimal.numeral n).dropWhile Char.isDigit = [] := List.dropWhile_eq_nil_iff.2 digits
    obtain ⟨c, s, whole⟩ := List.exists_cons_of_ne_nil (Decimal.numeral_ne_nil n)
    rw [whole] at digits absorbed first taken left ⊢
    have nonzero : c ≠ '0' := fun h => first (congrArg some h)
    have digit := digits c List.mem_cons_self
    rw [number]
    · rw [if_pos digit, taken, left, absorbed]
      rfl
    · exact fun h => nonzero h

end Reader

theorem Number.readsBack_natural {n : Nat} (word : n < 2 ^ 64) : (integer n).ReadsBack := by
  have chars : (integer n).chars = Decimal.numeral n := by
    rw [Number.chars, if_neg (by omega), Int.natAbs_natCast]
  have read := Reader.number_numeral word
  obtain ⟨c, s, whole⟩ := List.exists_cons_of_ne_nil (Decimal.numeral_ne_nil n)
  have digit : c.isDigit := Nat.isDigit_of_mem_toDigits (b := 10) (by decide) (by decide) (whole ▸ List.mem_cons_self)
  obtain ⟨below, hb⟩ := Reader.value_read Reader.depthLimit .whole
  refine Reader.parseAs_eq_ok.2 ⟨[], ?_, rfl⟩
  rw [hb, String.toList_ofList, chars, whole, Reader.valueOf_digit below digit, ← whole, read]
  rfl

end Json

end DeepLink
