import DeepLink.Proofs.Routing.FirstMatch
import DeepLink.Proofs.Visitor.Replay
import Mathlib.Data.Rat.Floor
import Mathlib.Data.Finset.Card

namespace DeepLink

namespace Context

inductive Made : Context → Prop where
  | new (os : Os) (lang : String) (now : Instant) : Made (.new os lang now)
  | detected (o : Overrides) (env : Environment) (draw : Nat) : Made (detect o env draw)
  | atTime {c : Context} (made : Made c) (now : Instant) : Made (c.atTime now)
  | withIdentity {c : Context} (made : Made c) (name : String) : Made (c.withIdentity name)
  | withBucket {c : Context} (made : Made c) (n : Nat) : Made (c.withBucket n)

theorem Made.rollout_isNormal {c : Context} (h : c.Made) : c.rollout.IsNormal := by
  induction h with
  | new => exact Nat.zero_le 99
  | detected o env draw => exact rolloutKey_isNormal o draw
  | atTime _ _ ih => exact ih
  | withIdentity => trivial
  | withBucket _ n => exact Nat.min_le_right n 99

theorem bucket_le {c : Context} (h : c.rollout.IsNormal) (seed : Option String) : c.bucket seed ≤ 99 := by
  obtain ⟨os, lang, now, key⟩ := c
  cases key with
  | identity name => exact Nat.le_of_lt_succ (Bucket.of_lt name _)
  | bucket n => exact h

end Context

theorem Binary64.exceeds_iff_lt_ceil {x : Binary64} {p : Rat} (exact_p : x.value = some p) {n : Nat} :
    x.Exceeds n ↔ n < ⌈p⌉₊ := by
  rw [Nat.lt_ceil]
  constructor
  · rintro (rfl | ⟨v, exact_v, above⟩)
    · cases exact_p
    · obtain rfl := Option.some.inj (exact_p.symm.trans exact_v)
      exact above
  · intro above
    exact .inr ⟨p, exact_p, above⟩

namespace Rollout

variable {r : Rollout} {p : Rat}

theorem admits_iff_lt_ceil (exact_p : r.percentage.value = some p) {n : Nat} : r.admits n ↔ n < ⌈p⌉₊ := by
  rw [admits, Binary64.above_iff, Binary64.exceeds_iff_lt_ceil exact_p]

def admitted (r : Rollout) : Finset Nat := (Finset.range Bucket.count).filter fun n => r.admits n

theorem admitted_eq_range (exact_p : r.percentage.value = some p) (most : p ≤ 100) : r.admitted = Finset.range ⌈p⌉₊ := by
  have few : ⌈p⌉₊ ≤ Bucket.count := Nat.ceil_le.2 most
  ext n
  rw [admitted, Finset.mem_filter, Finset.mem_range, Finset.mem_range, admits_iff_lt_ceil exact_p]
  exact ⟨And.right, fun below => ⟨Nat.lt_of_lt_of_le below few, below⟩⟩

end Rollout

namespace Condition

variable {k : Condition} {c : Context} {r : Rollout}

theorem holds_rollout_iff (present : k.rollout = some r) : k.Holds c .rollout ↔ r.admits (c.bucket r.seed) := by
  rw [Rollout.admits, Binary64.above_iff]
  simp only [Holds, present, Option.mem_some_iff, forall_eq']

theorem rejection_ne_rollout (present : k.rollout = some r) (admitted : r.admits (c.bucket r.seed)) :
    k.rejection c ≠ some .rollout := by
  rw [ne_eq, rejection_eq_some_iff]
  rintro ⟨fails, -⟩
  exact fails ((holds_rollout_iff present).2 admitted)

theorem rejection_ne_none (present : k.rollout = some r) (refused : ¬r.admits (c.bucket r.seed)) :
    k.rejection c ≠ none := by
  rw [ne_eq, rejection_eq_none_iff]
  intro all
  exact refused ((holds_rollout_iff present).1 (all .rollout))

end Condition

/-- Every context is in one of the buckets 0 to 99, and of these a percentage admits the ones below it, as many as it says,
rounded up. So a rollout of 100 percent rejects no context, one of 0 percent rejects all, and all above 0 admit bucket 0. -/
theorem percentage_admits_ceil :
    (∀ c : Context, c.Made → ∀ seed, c.bucket seed ≤ 99) ∧
      (∀ (r : Rollout) (p : Rat), r.percentage.value = some p → p ≤ 100 →
        r.admitted = Finset.range ⌈p⌉₊ ∧ r.admitted.card = ⌈p⌉₊ ∧ (0 < p → r.admits 0)) ∧
      ∀ (r : Rollout) (c : Context), c.Made →
        (r.percentage.value = some 100 → r.admits (c.bucket r.seed) ∧
          ∀ k : Condition, k.rollout = some r → k.rejection c ≠ some .rollout) ∧
        (r.percentage.value = some 0 → ¬r.admits (c.bucket r.seed) ∧
          ∀ k : Condition, k.rollout = some r → k.rejection c ≠ none) := by
  refine ⟨fun c made => Context.bucket_le made.rollout_isNormal, ?counted, fun r c made => ⟨?full, ?empty⟩⟩
  case counted =>
    intro r p exact_p most
    have below := Rollout.admitted_eq_range exact_p most
    refine ⟨below, ?_, ?_⟩
    · rw [below, Finset.card_range]
    · intro some_share
      rw [Rollout.admits_iff_lt_ceil exact_p, Nat.ceil_pos]
      exact some_share
  case full =>
    intro hundred
    have below : c.bucket r.seed < ⌈(100 : Rat)⌉₊ := by
      rw [Nat.ceil_ofNat]
      exact Nat.lt_succ_of_le (Context.bucket_le made.rollout_isNormal r.seed)
    have admitted := (Rollout.admits_iff_lt_ceil hundred).2 below
    exact ⟨admitted, fun k present => Condition.rejection_ne_rollout present admitted⟩
  case empty =>
    intro zero
    have refused : ¬r.admits (c.bucket r.seed) := by
      rw [Rollout.admits_iff_lt_ceil zero, Nat.ceil_zero]
      exact Nat.not_lt_zero _
    exact ⟨refused, fun k present => Condition.rejection_ne_none present refused⟩

theorem percentage_admits_ceil_half :
    let r : Rollout := { percentage := .ofRatio false 21 2 }
    r.percentage.value = some (21 / 2) ∧ (21 / 2 : Rat) ≤ 100 ∧
      r.admitted = Finset.range 11 ∧ r.admitted.card = 11 ∧ r.admits 0 := by
  intro r
  have exact_p : r.percentage.value = some (21 / 2) := by decide +kernel
  have most : (21 / 2 : Rat) ≤ 100 := by decide +kernel
  have up : ⌈(21 / 2 : Rat)⌉₊ = 11 := by decide +kernel
  have counted := percentage_admits_ceil.2.1 r (21 / 2) exact_p most
  rw [up] at counted
  exact ⟨exact_p, most, counted.1, counted.2.1, counted.2.2 (by decide +kernel)⟩

end DeepLink
