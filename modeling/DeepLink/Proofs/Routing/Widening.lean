import DeepLink.Proofs.Routing.FirstMatch
import DeepLink.Proofs.Rules.Stamps

namespace DeepLink

namespace Binary64

inductive AtMost : Binary64 → Binary64 → Prop where
  | least {y : Binary64} (number : y ≠ nan) : AtMost (infinite true) y
  | greatest {x : Binary64} (number : x ≠ nan) : AtMost x (infinite false)
  | finite {x y : Binary64} {v w : Rat} (left : x.value = some v) (right : y.value = some w) (le : v ≤ w) : AtMost x y

theorem Exceeds.mono {x y : Binary64} {n : Nat} (h : x.Exceeds n) (wider : x.AtMost y) : y.Exceeds n := by
  cases wider with
  | least => simp [Exceeds, value] at h
  | greatest => exact .inl rfl
  | @finite _ _ v w left right le =>
    rcases h with rfl | ⟨u, exact_u, above⟩
    · cases left
    · obtain rfl := Option.some.inj (left.symm.trans exact_u)
      exact .inr ⟨w, right, lt_of_lt_of_le above le⟩

end Binary64

theorem Rollout.admits_mono {o o' : Rollout} {n : Nat} (wider : o.percentage.AtMost o'.percentage)
    (h : o.admits n) : o'.admits n :=
  Binary64.above_iff.2 ((Binary64.above_iff.1 h).mono wider)

namespace Rule

variable {r : Rule} {p q : Binary64} {ctx : Context}

def withPercentage (q : Binary64) (r : Rule) : Rule :=
  { r with condition := r.condition.map fun c => { c with rollout := c.rollout.map fun o => { o with percentage := q } } }

theorem Satisfied.withPercentage (h : r.Satisfied ctx) (share : r.percentage? = some p) (wider : p.AtMost q) :
    (r.withPercentage q).Satisfied ctx := by
  intro c' hc' part
  obtain ⟨c, hc, rfl⟩ := Option.map_eq_some_iff.1 hc'
  cases part with
  | os => exact h c hc .os
  | lang => exact h c hc .lang
  | dateRange => exact h c hc .dateRange
  | rollout =>
    intro o' ho'
    obtain ⟨o, ho, rfl⟩ := Option.map_eq_some_iff.1 ho'
    obtain rfl := Option.some.inj (share.symm.trans (mem_percentage? hc ho))
    exact (h c hc .rollout o ho).mono wider

end Rule

section

variable (ctx : Context)

theorem firstMatch_cons (r : Rule) (rules : List Rule) : firstMatch ctx (r :: rules) =
    if (r.rejection ctx).isNone then some 0 else (firstMatch ctx rules).map (· + 1) := by
  rw [firstMatch, List.findIdx?_cons, firstMatch]

theorem firstMatch_modify {f : Rule → Rule} {rules : List Rule} {i : Nat}
    (gains : ∀ r, rules[i]? = some r → r.Satisfied ctx → (f r).Satisfied ctx) :
    firstMatch ctx (rules.modify i f) = firstMatch ctx rules ∨
      firstMatch ctx (rules.modify i f) = some i ∧ ∀ m ∈ firstMatch ctx rules, i < m := by
  induction rules generalizing i with
  | nil => simp
  | cons r rules ih =>
    cases i with
    | zero =>
      rw [List.modify_zero_cons, firstMatch_cons, firstMatch_cons]
      by_cases before : r.Satisfied ctx
      · have after := gains r rfl before
        rw [if_pos (Rule.satisfied_iff.2 before), if_pos (Rule.satisfied_iff.2 after)]
        exact .inl rfl
      · rw [if_neg (mt Rule.satisfied_iff.1 before)]
        by_cases after : (f r).Satisfied ctx
        · rw [if_pos (Rule.satisfied_iff.2 after)]
          refine .inr ⟨rfl, fun m hm => ?_⟩
          obtain ⟨k, -, rfl⟩ := Option.map_eq_some_iff.1 hm
          exact Nat.succ_pos k
        · rw [if_neg (mt Rule.satisfied_iff.1 after)]
          exact .inl rfl
    | succ i =>
      rw [List.modify_succ_cons, firstMatch_cons, firstMatch_cons]
      split
      · exact .inl rfl
      · rcases ih gains with same | ⟨gained, later⟩
        · rw [same]
          exact .inl rfl
        · rw [gained]
          refine .inr ⟨rfl, fun m hm => ?_⟩
          obtain ⟨k, hk, rfl⟩ := Option.map_eq_some_iff.1 hm
          exact Nat.succ_lt_succ (later k hk)

end

namespace Document

variable {d : Document} {i : Nat} {p q : Binary64}

def withPercentage (i : Nat) (q : Binary64) (d : Document) : Document :=
  { d with rules := d.rules.modify i (Rule.withPercentage q) }

theorem decide_withPercentage (ctx : Context) (index : Option Nat) :
    (d.withPercentage i q).decide ctx index = d.decide ctx index := by
  cases index with
  | none => rfl
  | some k =>
    have same (r : Rule) : (if i = k then r.withPercentage q else r).target = r.target ∧
        (if i = k then r.withPercentage q else r).reason = r.reason := by
      split <;> exact ⟨rfl, rfl⟩
    simp only [decide, withPercentage, Option.bind_some, List.getElem?_modify]
    cases d.rules[k]? with
    | none => rfl
    | some r =>
      simp only [Option.map_eq_map, Option.map_some, same]

/-- With a larger percentage in one rule, a visitor is either decided as before, or taken by that rule from a later one
or from the default. An identity that is admitted stays so under the same seed, in whichever rule. -/
theorem widened_takes_more {r : Rule} (listed : d.rules[i]? = some r) (share : r.percentage? = some p)
    (wider : p.AtMost q) :
    (∀ ctx, (d.withPercentage i q).evaluate ctx = d.evaluate ctx ∨
      ((d.withPercentage i q).evaluate ctx).index = some i ∧ ∀ k, (d.evaluate ctx).index = some k → i < k) ∧
      ∀ (name : String) (o o' : Rollout) (ctx ctx' : Context), o.percentage.AtMost o'.percentage → o.seed = o'.seed →
        ctx.rollout = .identity name → ctx'.rollout = .identity name →
          o.admits (ctx.bucket o.seed) → o'.admits (ctx'.bucket o'.seed) := by
  constructor
  · intro ctx
    have gains (r' : Rule) (hr' : d.rules[i]? = some r') (h : r'.Satisfied ctx) :
        (r'.withPercentage q).Satisfied ctx := by
      obtain rfl := Option.some.inj (listed.symm.trans hr')
      exact h.withPercentage share wider
    rcases firstMatch_modify ctx gains with same | gained
    · refine .inl ?_
      have index : (d.withPercentage i q).evaluate ctx = (d.withPercentage i q).decide ctx (firstMatch ctx d.rules) :=
        congrArg ((d.withPercentage i q).decide ctx) same
      rw [index, decide_withPercentage]
      rfl
    · exact .inr gained
  · intro name o o' ctx ctx' wider seed identified identified' admitted
    have bucket : ctx'.bucket o'.seed = ctx.bucket o.seed := by
      rw [Context.bucket, Context.bucket, identified, identified', seed]
    rw [bucket]
    exact Rollout.admits_mono wider admitted

def newPage : Rule where
  condition := some { rollout := some { percentage := .ofNat 10, seed := some "promo" } }
  target := { web := some "app://new" }

def campaign : Document where
  rules := [newPage, { target := { web := some "app://old" } }]

def ann : Context := ⟨.desktop, "en", ⟨1750000000, 0, by decide, by decide⟩, .identity "ann"⟩

theorem widened_takes_more_ann :
    campaign.rules[0]? = some newPage ∧ newPage.percentage? = some (.ofNat 10) ∧
      (Binary64.ofNat 10).AtMost (.ofNat 50) ∧ (campaign.evaluate ann).index = some 1 ∧
      ((campaign.withPercentage 0 (.ofNat 50)).evaluate ann).index = some 0 := by
  have listed : campaign.rules[0]? = some newPage := rfl
  have share : newPage.percentage? = some (.ofNat 10) := rfl
  have wider : (Binary64.ofNat 10).AtMost (.ofNat 50) := .finite rfl rfl (by decide +kernel)
  have old : (campaign.evaluate ann).index = some 1 := by decide +kernel
  have moved : (campaign.withPercentage 0 (.ofNat 50)).evaluate ann ≠ campaign.evaluate ann := by decide +kernel
  refine ⟨listed, share, wider, old, ?_⟩
  rcases (widened_takes_more listed share wider).1 ann with same | ⟨taken, -⟩
  · exact absurd same moved
  · exact taken

end Document

end DeepLink
