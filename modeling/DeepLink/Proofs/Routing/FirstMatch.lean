import DeepLink.Routing.Evaluation
import Mathlib.Tactic.Common

namespace DeepLink

def Binary64.Exceeds (x : Binary64) (n : Nat) : Prop := x = .infinite false ∨ ∃ v, x.value = some v ∧ (n : Rat) < v

theorem Binary64.above_iff {x : Binary64} {n : Nat} : above n x ↔ x.Exceeds n := by
  cases x with
  | nan => simp [above, Exceeds, value]
  | infinite negative => simp [above, Exceeds, value]
  | finite negative m e => simp [above, Exceeds, value]

theorem DateRange.contains_iff {r : DateRange} {now : Instant} : r.contains now ↔
    (∀ start ∈ r.start, start ≤ now) ∧ ∀ finish ∈ r.finish, now ≤ finish := by
  obtain ⟨start, finish⟩ := r
  cases start <;> cases finish <;> simp [contains]

namespace Condition

variable (c : Condition) (ctx : Context)

def Holds : Part → Prop
  | .os => ∀ names ∈ c.os, ctx.os ∈ names
  | .lang => ∀ tags ∈ c.lang, ∃ tag ∈ tags, Text.lower tag = Text.lower ctx.lang
  | .dateRange => ∀ r ∈ c.dateRange, (∀ start ∈ r.start, start ≤ ctx.now) ∧ ∀ finish ∈ r.finish, ctx.now ≤ finish
  | .rollout => ∀ r ∈ c.rollout, r.percentage.Exceeds (ctx.bucket r.seed)

def FailsFirst (p : Part) : Prop :=
  ¬c.Holds ctx p ∧ ∃ before after, Part.all = before ++ p :: after ∧ ∀ q ∈ before, c.Holds ctx q

def fails : Part → Bool
  | .os => c.os.any fun names => !names.contains ctx.os
  | .lang => c.lang.any fun tags => !tags.any (Text.lower · = Text.lower ctx.lang)
  | .dateRange => c.dateRange.any fun r => !r.contains ctx.now
  | .rollout => c.rollout.any fun r => !r.admits (ctx.bucket r.seed)

theorem fails_iff {p : Part} : c.fails ctx p ↔ ¬c.Holds ctx p := by
  cases p with
  | os => cases h : c.os <;> simp [fails, Holds, h]
  | lang => cases h : c.lang <;> simp [fails, Holds, h]
  | dateRange =>
    simp only [fails, Holds, ← DateRange.contains_iff]
    cases c.dateRange <;> simp
  | rollout =>
    simp only [fails, Holds, ← Binary64.above_iff]
    cases c.rollout <;> simp [Rollout.admits]

theorem rejection_eq_find? : c.rejection ctx = Part.all.find? (c.fails ctx) := by
  have step (p : Part) (rest : List Part) :
      (p :: rest).find? (c.fails ctx) = if c.fails ctx p then some p else rest.find? (c.fails ctx) := by
    rw [List.find?_cons]
    cases c.fails ctx p <;> rfl
  rw [Part.all, step, step, step, step]
  rfl

theorem rejection_eq_none_iff : c.rejection ctx = none ↔ ∀ p, c.Holds ctx p := by
  have every : ∀ p, p ∈ Part.all := by
    intro p
    cases p <;> decide
  rw [rejection_eq_find?, List.find?_eq_none]
  simp only [fails_iff, Classical.not_not]
  constructor
  · intro h p
    exact h p (every p)
  · intro h p _
    exact h p

theorem rejection_eq_some_iff {p : Part} : c.rejection ctx = some p ↔ c.FailsFirst ctx p := by
  have passes (q : Part) : (!c.fails ctx q) = true ↔ c.Holds ctx q := by
    rw [Bool.not_eq_true', ← Bool.not_eq_true, fails_iff, Classical.not_not]
  rw [rejection_eq_find?, List.find?_eq_some_iff_append, fails_iff]
  simp only [passes, FailsFirst]

end Condition

def Rule.Satisfied (r : Rule) (ctx : Context) : Prop := ∀ c ∈ r.condition, ∀ p, c.Holds ctx p

def Rule.FailsFirst (r : Rule) (ctx : Context) (p : Part) : Prop := ∃ c ∈ r.condition, c.FailsFirst ctx p

theorem Rule.rejection_eq_none_iff {r : Rule} {ctx : Context} : r.rejection ctx = none ↔ r.Satisfied ctx := by
  rw [rejection, Option.bind_eq_none_iff]
  simp only [Condition.rejection_eq_none_iff]
  rfl

theorem Rule.rejection_eq_some_iff {r : Rule} {ctx : Context} {p : Part} :
    r.rejection ctx = some p ↔ r.FailsFirst ctx p := by
  rw [rejection, Option.bind_eq_some_iff]
  simp only [Condition.rejection_eq_some_iff]
  rfl

theorem Rule.satisfied_iff {r : Rule} {ctx : Context} : (r.rejection ctx).isNone ↔ r.Satisfied ctx := by
  rw [Option.isNone_iff_eq_none, rejection_eq_none_iff]

variable (ctx : Context)

def firstMatch (rules : List Rule) : Option Nat := rules.findIdx? fun r => (r.rejection ctx).isNone

theorem length_outcomes (rules : List Rule) : (outcomes ctx rules).length = rules.length := by
  induction rules with
  | nil => rfl
  | cons r rules ih =>
    rw [outcomes]
    split
    · rw [List.length_cons, ih, List.length_cons]
    · rw [List.length_cons, List.length_map, List.length_cons]

theorem idxOf?_outcomes (rules : List Rule) : (outcomes ctx rules).idxOf? .matched = firstMatch ctx rules := by
  induction rules with
  | nil => rfl
  | cons r rules ih =>
    rw [outcomes, firstMatch, List.findIdx?_cons]
    split
    · next part h =>
      rw [List.idxOf?_cons, ih, h]
      rfl
    · next h =>
      rw [List.idxOf?_cons, h]
      rfl

theorem getElem?_outcomes {rules : List Rule} {i : Nat} {r : Rule} (h : rules[i]? = some r) :
    (outcomes ctx rules)[i]? = some
      (if (firstMatch ctx rules).any (· < i) then .notReached else (r.rejection ctx).elim .matched .rejected) := by
  induction rules generalizing i with
  | nil => cases h
  | cons r' rules ih =>
    rw [outcomes, firstMatch, List.findIdx?_cons]
    cases i with
    | zero =>
      obtain rfl : r' = r := Option.some.inj h
      cases r'.rejection ctx <;> simp
    | succ i =>
      rw [List.getElem?_cons_succ] at h
      cases r'.rejection ctx with
      -- this rule is the match, and the scan ends with it
      | none =>
        rw [List.getElem?_cons_succ, List.getElem?_map, h]
        simp
      | some part =>
        rw [List.getElem?_cons_succ, ih h, firstMatch]
        cases rules.findIdx? fun r => (r.rejection ctx).isNone <;> simp

def FirstSatisfied (rules : List Rule) (i : Nat) : Prop :=
  ∃ r, rules[i]? = some r ∧ r.Satisfied ctx ∧ ∀ j < i, ∀ q, rules[j]? = some q → ¬q.Satisfied ctx

theorem firstMatch_eq_some_iff {rules : List Rule} {i : Nat} :
    firstMatch ctx rules = some i ↔ FirstSatisfied ctx rules i := by
  rw [firstMatch, List.findIdx?_eq_some_iff_getElem]
  constructor
  · rintro ⟨hi, matched, earlier⟩
    refine ⟨rules[i], List.getElem?_eq_getElem hi, Rule.satisfied_iff.1 matched, ?_⟩
    intro j hj q hq satisfied
    obtain ⟨_, rfl⟩ := List.getElem?_eq_some_iff.1 hq
    exact earlier j hj (Rule.satisfied_iff.2 satisfied)
  · rintro ⟨r, hr, satisfied, earlier⟩
    obtain ⟨hi, rfl⟩ := List.getElem?_eq_some_iff.1 hr
    refine ⟨hi, Rule.satisfied_iff.2 satisfied, ?_⟩
    intro j hj matched
    exact earlier j hj _ (List.getElem?_eq_getElem (Nat.lt_trans hj hi)) (Rule.satisfied_iff.1 matched)

theorem firstMatch_eq_none_iff {rules : List Rule} :
    firstMatch ctx rules = none ↔ ∀ r ∈ rules, ¬r.Satisfied ctx := by
  rw [firstMatch, List.findIdx?_eq_none_iff]
  simp only [← Rule.satisfied_iff, Bool.not_eq_true]

def passedOver (rules : List Rule) : Nat := (firstMatch ctx rules).getD rules.length

theorem lt_passedOver_iff {rules : List Rule} {i : Nat} :
    i < passedOver ctx rules ↔ i < rules.length ∧ ∀ m ∈ firstMatch ctx rules, i < m := by
  rw [passedOver]
  cases hm : firstMatch ctx rules with
  | none => simp
  | some m =>
    obtain ⟨r, hr, -⟩ := (firstMatch_eq_some_iff ctx).1 hm
    have bound : m < rules.length := (List.getElem?_eq_some_iff.1 hr).1
    simp only [Option.getD_some, Option.mem_some_iff, forall_eq']
    omega

theorem unsatisfied_before {rules : List Rule} {i : Nat} {r : Rule} (h : rules[i]? = some r)
    (before : ∀ m ∈ firstMatch ctx rules, i < m) : ¬r.Satisfied ctx := by
  cases hm : firstMatch ctx rules with
  | none => exact (firstMatch_eq_none_iff ctx).1 hm r (List.mem_of_getElem? h)
  | some m =>
    obtain ⟨-, -, -, earlier⟩ := (firstMatch_eq_some_iff ctx).1 hm
    exact earlier i (before m hm) r h

theorem rejected_before {rules : List Rule} {i : Nat} {r : Rule} (h : rules[i]? = some r)
    (before : i < passedOver ctx rules) : ∃ p, r.FailsFirst ctx p ∧ (outcomes ctx rules)[i]? = some (.rejected p) := by
  obtain ⟨-, unmatched⟩ := (lt_passedOver_iff ctx).1 before
  have reached : (firstMatch ctx rules).any (· < i) = false := by
    cases hm : firstMatch ctx rules with
    | none => rfl
    | some m => simpa using Nat.le_of_lt (unmatched m hm)
  have unsatisfied := unsatisfied_before ctx h unmatched
  obtain ⟨p, hp⟩ := Option.ne_none_iff_exists'.1 (mt Rule.rejection_eq_none_iff.1 unsatisfied)
  refine ⟨p, Rule.rejection_eq_some_iff.1 hp, ?_⟩
  rw [getElem?_outcomes ctx h, reached, hp]
  rfl

theorem firstMatch_of_passedOver_lt {rules : List Rule} (h : passedOver ctx rules < rules.length) :
    firstMatch ctx rules = some (passedOver ctx rules) := by
  rw [passedOver] at h ⊢
  cases hm : firstMatch ctx rules with
  | none =>
    rw [hm] at h
    exact absurd h (Nat.lt_irrefl _)
  | some m => rfl

theorem matched_at {rules : List Rule} {i : Nat} (h : firstMatch ctx rules = some i) :
    (outcomes ctx rules)[i]? = some .matched := by
  obtain ⟨r, hr, satisfied, -⟩ := (firstMatch_eq_some_iff ctx).1 h
  rw [getElem?_outcomes ctx hr, h, Rule.rejection_eq_none_iff.2 satisfied]
  simp

theorem notReached_after {rules : List Rule} {i m : Nat} (h : firstMatch ctx rules = some m) (after : m < i)
    (bound : i < rules.length) : (outcomes ctx rules)[i]? = some .notReached := by
  rw [getElem?_outcomes ctx (List.getElem?_eq_getElem bound), h]
  simp [after]

theorem rejected_iff {rules : List Rule} {i : Nat} :
    (∃ p, (outcomes ctx rules)[i]? = some (.rejected p)) ↔ i < passedOver ctx rules := by
  constructor
  · rintro ⟨p, hp⟩
    have bound : i < rules.length := by
      have := (List.getElem?_eq_some_iff.1 hp).1
      rwa [length_outcomes] at this
    refine (lt_passedOver_iff ctx).2 ⟨bound, fun m hm => ?_⟩
    by_contra beyond
    rcases Nat.eq_or_lt_of_le (Nat.not_lt.1 beyond) with rfl | after
    · rw [matched_at ctx hm] at hp
      cases hp
    · rw [notReached_after ctx hm after bound] at hp
      cases hp
  · intro before
    have bound := ((lt_passedOver_iff ctx).1 before).1
    obtain ⟨p, -, hp⟩ := rejected_before ctx (List.getElem?_eq_getElem bound) before
    exact ⟨p, hp⟩

namespace Report

variable {x : Report} {p q : Part} {i : Nat}

theorem mem_rejectedBy : i ∈ x.rejectedBy p ↔ x.outcomes[i]? = some (.rejected p) := by
  rw [rejectedBy, List.mem_map]
  constructor
  · rintro ⟨⟨outcome, j⟩, hj, rfl⟩
    obtain ⟨listed, same⟩ := List.mem_filter.1 hj
    rw [List.mk_mem_zipIdx_iff_getElem?] at listed
    obtain rfl : outcome = .rejected p := of_decide_eq_true same
    exact listed
  · intro h
    exact ⟨(.rejected p, i), List.mem_filter.2 ⟨List.mk_mem_zipIdx_iff_getElem?.2 h, decide_eq_true rfl⟩, rfl⟩

theorem rejectedBy_increasing (x : Report) (p : Part) : (x.rejectedBy p).Pairwise (· < ·) := by
  have all : (x.outcomes.zipIdx.map (·.2)).Pairwise (· < ·) := by
    rw [List.zipIdx_map_snd]
    exact List.pairwise_lt_range'
  exact all.sublist (List.filter_sublist.map _)

theorem rejectedBy_disjoint (h : p ≠ q) : (x.rejectedBy p).Disjoint (x.rejectedBy q) := by
  intro i hp hq
  rw [mem_rejectedBy] at hp hq
  rw [hp] at hq
  cases hq
  exact h rfl

end Report

namespace Document

variable (d : Document)

theorem evaluation_report : (d.report ctx).evaluation = d.evaluate ctx := by
  rw [report, evaluate, idxOf?_outcomes, firstMatch]

theorem decide_rule {i : Nat} {r : Rule} (h : d.rules[i]? = some r) :
    (d.decide ctx (some i)).target = r.target ∧ (d.decide ctx (some i)).reason = r.reason := by
  simp [decide, h]

theorem decide_default {r : DefaultRule} (h : d.default = some r) :
    (d.decide ctx none).target = r.target ∧ (d.decide ctx none).reason = r.reason := by
  simp [decide, h]

theorem decide_nothing (h : d.default = none) :
    (d.decide ctx none).target = {} ∧ (d.decide ctx none).reason = some "no-match" := by
  simp [decide, h, noMatch]

end Document

/-- The first rule that a context satisfies decides, else the default, else nothing; a report has the same
decision, and says of each rule what became of it. -/
theorem Document.first_satisfied_decides (d : Document) (ctx : Context) :
    let e := d.evaluate ctx
    let x := d.report ctx
    let passed := e.index.getD d.rules.length
    (∀ i, e.index = some i ↔ FirstSatisfied ctx d.rules i) ∧
      (e.index = none ↔ ∀ r ∈ d.rules, ¬r.Satisfied ctx) ∧
      (∀ i r, e.index = some i → d.rules[i]? = some r → e.target = r.target ∧ e.reason = r.reason) ∧
      (∀ r, e.index = none → d.default = some r → e.target = r.target ∧ e.reason = r.reason) ∧
      (e.index = none → d.default = none → e.target = {} ∧ e.reason = some "no-match") ∧
      x.evaluation = e ∧
      x.outcomes.length = d.rules.length ∧
      (∀ i r, d.rules[i]? = some r →
        (i < passed → ∃ p, r.FailsFirst ctx p ∧ x.outcomes[i]? = some (.rejected p)) ∧
          (i = passed → x.outcomes[i]? = some .matched) ∧ (passed < i → x.outcomes[i]? = some .notReached)) ∧
      (∀ p, (x.rejectedBy p).Pairwise (· < ·)) ∧
      (∀ p q, p ≠ q → (x.rejectedBy p).Disjoint (x.rejectedBy q)) ∧
      (∀ i, (∃ p, i ∈ x.rejectedBy p) ↔ i < passed) := by
  intro e x passed
  have index : e.index = firstMatch ctx d.rules := rfl
  have decided {m : Option Nat} (h : e.index = m) : e = d.decide ctx m := by
    rw [← h]
    rfl
  refine ⟨?_, ?_, ?_, ?_, ?_, d.evaluation_report ctx, length_outcomes ctx d.rules, ?_, x.rejectedBy_increasing,
    fun p q => Report.rejectedBy_disjoint, ?_⟩
  · intro i
    rw [index, firstMatch_eq_some_iff]
  · rw [index, firstMatch_eq_none_iff]
  · intro i r found hr
    rw [decided found]
    exact d.decide_rule ctx hr
  · intro r missed hr
    rw [decided missed]
    exact d.decide_default ctx hr
  · intro missed none
    rw [decided missed]
    exact d.decide_nothing ctx none
  · intro i r hr
    have bound := (List.getElem?_eq_some_iff.1 hr).1
    refine ⟨rejected_before ctx hr, ?_, ?_⟩
    · intro here
      subst here
      exact matched_at ctx (firstMatch_of_passedOver_lt ctx bound)
    · intro after
      exact notReached_after ctx (firstMatch_of_passedOver_lt ctx (Nat.lt_trans after bound)) after bound
  · intro i
    simp only [Report.mem_rejectedBy]
    exact rejected_iff ctx

end DeepLink
