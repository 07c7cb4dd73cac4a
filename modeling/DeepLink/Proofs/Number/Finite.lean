import DeepLink.Number.Binary64
import Mathlib.Algebra.Order.Field.Power
import Mathlib.Data.Nat.Cast.Order.Field
import Mathlib.Data.Rat.Cast.Order
import Mathlib.Tactic.Linarith
import Mathlib.Tactic.NormNum
import Mathlib.Tactic.Positivity
import Mathlib.Tactic.Ring

namespace DeepLink.Binary64

theorem cast_shiftLeft (n k : Nat) : ((n <<< k : Nat) : Rat) = n * 2 ^ k := by
  rw [Nat.shiftLeft_eq, Nat.cast_mul, Nat.cast_pow, Nat.cast_ofNat]

theorem scale_eq (m : Nat) (e : Int) : scale m e = m * 2 ^ e := by
  cases e with
  | ofNat k => rw [scale, cast_shiftLeft, Int.ofNat_eq_natCast, zpow_natCast]
  | negSucc k =>
    rw [scale, Rat.mkRat_eq_div, cast_shiftLeft, zpow_negSucc, div_eq_mul_inv, Nat.cast_one, one_mul]
    rfl

theorem ratio_pos (m : Nat) (e : Int) : 0 < (ratio m e).2 := by
  cases e with
  | ofNat k => exact Nat.one_pos
  | negSucc k =>
    rw [ratio, Nat.one_shiftLeft]
    exact Nat.two_pow_pos (k + 1)

theorem ratio_eq (m : Nat) (e : Int) : ((ratio m e).1 : Rat) / (ratio m e).2 = m * 2 ^ e := by
  rw [← scale_eq]
  cases e with
  | ofNat k => rw [ratio, scale, Nat.cast_one, div_one]
  | negSucc k => rw [ratio, scale, Rat.mkRat_eq_div]; rfl

theorem nearest_le (tie : Tie) (a b : Nat) : (nearest tie a b : Rat) ≤ a / b + 1 := by
  have floor : ((a / b : Nat) : Rat) ≤ a / b := Nat.cast_div_le
  simp only [nearest]
  split
  · linarith
  · push_cast
    linarith

theorem mantissaAt_le (a b : Nat) (e : Int) : (mantissaAt a b e : Rat) * 2 ^ e ≤ a / b + 2 ^ e := by
  have positive : (0 : Rat) < 2 ^ e := zpow_pos two_pos e
  have bound : (mantissaAt a b e : Rat) ≤ a / b / 2 ^ e + 1 := by
    cases e with
    | ofNat k =>
      have near := nearest_le .even a (b <<< k)
      rw [cast_shiftLeft, ← div_div] at near
      rwa [Int.ofNat_eq_natCast, zpow_natCast]
    | negSucc k =>
      have near := nearest_le .even (a <<< (k + 1)) b
      rw [cast_shiftLeft, mul_div_right_comm, ← div_inv_eq_mul] at near
      rwa [zpow_negSucc]
  calc (mantissaAt a b e : Rat) * 2 ^ e ≤ (a / b / 2 ^ e + 1) * 2 ^ e := by gcongr
    _ = a / b + 2 ^ e := by rw [add_mul, div_mul_cancel₀ _ positive.ne', one_mul]

theorem exponentFor_le {a b k : Nat} (some_bit : a ≠ 0) (h : a ≤ 2 ^ k * b) :
    exponentFor a b ≤ max (k - 52 : Int) leastExponent := by
  have fits : a < 2 ^ (k + (b.log2 + 1)) := by
    calc a ≤ 2 ^ k * b := h
      _ < 2 ^ k * 2 ^ (b.log2 + 1) := by
        apply Nat.mul_lt_mul_of_pos_left Nat.lt_log2_self (Nat.two_pow_pos k)
      _ = 2 ^ (k + (b.log2 + 1)) := (Nat.pow_add ..).symm
  have bits : a.log2 < k + (b.log2 + 1) := (Nat.log2_lt some_bit).2 fits
  simp only [exponentFor]
  apply max_le_max_right
  split <;> omega

def Bounded (k : Nat) (x : Binary64) : Prop := ∃ s m e, x = finite s m e ∧ (m : Rat) * 2 ^ e ≤ 2 ^ k

def atLeast (k : Nat) : Binary64 → Bool
  | finite _ m e => 2 ^ k * (ratio m e).2 ≤ (ratio m e).1
  | _ => false

theorem Bounded.isFinite {k : Nat} {x : Binary64} (h : Bounded k x) : x.isFinite := by
  obtain ⟨s, m, e, rfl, -⟩ := h
  rfl

theorem Bounded.mono {j k : Nat} {x : Binary64} (h : Bounded j x) (hjk : j ≤ k) : Bounded k x := by
  obtain ⟨s, m, e, rfl, bound⟩ := h
  exact ⟨s, m, e, rfl, bound.trans (pow_le_pow_right₀ one_le_two hjk)⟩

theorem assemble_bounded {s : Bool} {m k : Nat} {e : Int} (small : e < greatestExponent)
    (h : (m : Rat) * 2 ^ e ≤ 2 ^ k) : Bounded k (assemble s m e) := by
  by_cases carry : m = 1 <<< 53
  · have below : ¬e + 1 > greatestExponent := by omega
    have same : ((1 <<< 52 : Nat) : Rat) * 2 ^ (e + 1) = m * 2 ^ e := by
      rw [carry, zpow_add_one₀ two_ne_zero, cast_shiftLeft, cast_shiftLeft]
      ring
    simp only [assemble, carry, beq_self_eq_true, if_true, below, if_false]
    exact ⟨s, 1 <<< 52, e + 1, rfl, same.trans_le h⟩
  · have below : ¬e > greatestExponent := by omega
    simp only [assemble, beq_iff_eq, carry, if_false, below]
    exact ⟨s, m, e, rfl, h⟩

theorem ofRatio_bounded {s : Bool} {a b k : Nat} (divisor : 0 < b) (small : k ≤ 1000) (h : a ≤ 2 ^ k * b) :
    Bounded (k + 1) (ofRatio s a b) := by
  unfold ofRatio
  by_cases zero : a = 0
  · rw [zero]
    refine ⟨s, 0, leastExponent, rfl, ?_⟩
    rw [Nat.cast_zero, zero_mul]
    positivity
  · have exponent := exponentFor_le zero h
    have least : leastExponent = -1074 := rfl
    have quotient : (a : Rat) / b ≤ 2 ^ k := by
      rw [div_le_iff₀ (Nat.cast_pos.2 divisor)]
      exact_mod_cast h
    have unit : (2 : Rat) ^ exponentFor a b ≤ 2 ^ k := by
      rw [← zpow_natCast]
      apply zpow_le_zpow_right₀ one_le_two
      omega
    rw [if_neg (by simpa using zero)]
    apply assemble_bounded
    · rw [greatestExponent]
      omega
    · calc (mantissaAt a b (exponentFor a b) : Rat) * 2 ^ exponentFor a b
          ≤ a / b + 2 ^ exponentFor a b := mantissaAt_le a b _
        _ ≤ 2 ^ k + 2 ^ k := add_le_add quotient unit
        _ = 2 ^ (k + 1) := by rw [pow_succ, mul_two]

theorem div_bounded {j k : Nat} {x y : Binary64} (hx : Bounded (j + k) x) (hy : atLeast j y) (small : k ≤ 1000) :
    Bounded (k + 1) (x.div y) := by
  obtain ⟨s, m, e, rfl, bound⟩ := hx
  cases y with
  | nan => cases hy
  | infinite => cases hy
  | finite t n f =>
    have divisor := ratio_pos m e
    have enough : 2 ^ j * (ratio n f).2 ≤ (ratio n f).1 := of_decide_eq_true hy
    have numerator : (ratio m e).1 ≤ 2 ^ (j + k) * (ratio m e).2 := by
      rw [← ratio_eq, div_le_iff₀ (Nat.cast_pos.2 divisor)] at bound
      exact_mod_cast bound
    apply ofRatio_bounded ?_ small
    · calc (ratio m e).1 * (ratio n f).2
          ≤ 2 ^ (j + k) * (ratio m e).2 * (ratio n f).2 := Nat.mul_le_mul_right _ numerator
        _ = 2 ^ k * ((ratio m e).2 * (2 ^ j * (ratio n f).2)) := by ring
        _ ≤ 2 ^ k * ((ratio m e).2 * (ratio n f).1) := by gcongr
    · apply Nat.mul_pos divisor
      have := Nat.mul_pos (Nat.two_pow_pos j) (ratio_pos n f)
      omega

theorem powers_atLeast : ∀ n ≤ tens, atLeast 0 (ofNat (Nat.pow 10 n)) := by decide +kernel

theorem greatest_power_atLeast : atLeast 1000 (ofNat (Nat.pow 10 tens)) := by decide +kernel

theorem ofNat_bounded {n : Nat} (h : n ≤ 2 ^ 64) : Bounded 65 (ofNat n) := by
  apply ofRatio_bounded Nat.one_pos (by decide)
  omega

theorem ofDecimal_go_isFinite {x y : Binary64} {exponent : Int} (hx : Bounded 65 x)
    (h : ofDecimal.go x exponent = some y) : y.isFinite := by
  fun_induction ofDecimal.go x exponent with
  | case1 x exponent few power down =>
    cases h
    exact (div_bounded (j := 0) (k := 65) hx (powers_atLeast _ few) (by decide)).isFinite
  | case2 x exponent few power up product finite =>
    rw [← Option.some.inj h]
    exact finite
  | case3 => cases h
  | case4 x exponent many zero =>
    cases h
    exact hx.isFinite
  | case5 => cases h
  | case6 x exponent many nonzero down ih =>
    apply ih
    · -- the number was below `2 ^ 1000`, so one step down leaves nothing of its size
      have less := div_bounded (j := 1000) (k := 0) (hx.mono (by decide)) greatest_power_atLeast (by decide)
      exact less.mono (by decide)
    · exact h

theorem ofDecimal_isFinite {significand : Nat} {exponent : Int} {x : Binary64} (word : significand < 2 ^ 64)
    (h : ofDecimal significand exponent = some x) : x.isFinite :=
  ofDecimal_go_isFinite (ofNat_bounded word.le) h

theorem ofInt_isFinite {i : Int} (h : i.natAbs ≤ 2 ^ 64) : (ofInt i).isFinite := by
  have bound : Bounded 65 (ofInt i) := by
    apply ofRatio_bounded Nat.one_pos (by decide)
    omega
  exact bound.isFinite

theorem neg_isFinite {x : Binary64} : x.neg.isFinite = x.isFinite := by cases x <;> rfl

end DeepLink.Binary64
