import DeepLink.Proofs.Rules.Places
import DeepLink.Rules.Check
import Mathlib.Tactic.Common

/-!
The check of a document tells how the document breaks the rules of validity: one issue for each violation, in the
order of the places where they are, and nothing else.
-/

namespace DeepLink

def Binary64.IsPercentage (x : Binary64) : Prop := ∃ v, x.value = some v ∧ 0 ≤ v ∧ v ≤ 100

theorem Binary64.within_iff {x : Binary64} : x.within 0 100 ↔ x.IsPercentage := by
  rw [within, IsPercentage]
  cases x.value with
  | none => simp
  | some v => simp

inductive Target.Breaks (t : Target) : Field → Problem → Prop where
  | link {f : Field} {uri : String} {fault : Url.Fault} (named : t.link f = some uri)
      (refused : Url.parse uri = .error fault) : Breaks t f (.badUri uri fault)

inductive Condition.Breaks (c : Condition) : Rule.Place → Problem → Prop where
  | tag {tags : List String} {j : Nat} {tag : String} (present : c.lang = some tags) (listed : tags[j]? = some tag)
      (blank : ∀ x ∈ tag.toList, Text.isBlank x) : Breaks c (.tag j) .emptyTag
  | dateRange {r : DateRange} {start finish : Instant} (present : c.dateRange = some r) (starts : r.start = some start)
      (ends : r.finish = some finish) (reversed : ¬start ≤ finish) : Breaks c .dateRange .reversed
  | rollout {r : Rollout} (present : c.rollout = some r) (outside : ¬r.percentage.IsPercentage) :
      Breaks c .rollout (.percentage r.percentage)

inductive Rule.Breaks (r : Rule) : Place → Problem → Prop where
  | target {f : Target.Field} {q : Problem} (broken : r.target.Breaks f q) : Breaks r (.link f) q
  | condition {c : Condition} {p : Place} {q : Problem} (present : r.condition = some c) (broken : c.Breaks p q) :
      Breaks r p q

inductive Document.Breaks (d : Document) : Place → Problem → Prop where
  | nothing (rules : d.rules = []) (default : d.default = none) : Breaks d .whole .noRule
  | rule {i : Nat} {r : Rule} {p : Rule.Place} {q : Problem} (listed : d.rules[i]? = some r) (broken : r.Breaks p q) :
      Breaks d (.rule i p) q
  | default {r : DefaultRule} {f : Target.Field} {q : Problem} (present : d.default = some r)
      (broken : r.target.Breaks f q) : Breaks d (.default f) q

structure Violation where
  place : Document.Place
  problem : Problem

def Violation.issue (v : Violation) : Issue := ⟨v.place.path, v.problem⟩

/-- The issues are those of the violations, each once, in the order of their places. -/
def Tells (found : List Issue) (broken : Document.Place → Problem → Prop) : Prop :=
  ∃ vs : List Violation, (∀ v, v ∈ vs ↔ broken v.place v.problem) ∧ vs.Pairwise (·.place.Before ·.place) ∧
    found = vs.map Violation.issue

theorem eq_of_ordered {vs : List Violation} (ordered : vs.Pairwise (·.place.Before ·.place)) {v w : Violation}
    (hv : v ∈ vs) (hw : w ∈ vs) (same : v.place = w.place) : v = w := by
  obtain ⟨i, hi, rfl⟩ := List.mem_iff_getElem.1 hv
  obtain ⟨j, hj, rfl⟩ := List.mem_iff_getElem.1 hw
  rw [List.pairwise_iff_getElem] at ordered
  rcases Nat.lt_trichotomy i j with before | rfl | before
  · exact absurd (same ▸ ordered i j hi hj before) (Document.Place.not_before_self _)
  · rfl
  · exact absurd (same ▸ ordered j i hj hi before) (Document.Place.not_before_self _)

section

variable {found more : List Issue} {broken broken' : Document.Place → Problem → Prop}

theorem Tells.congr (h : Tells found broken) (same : ∀ p q, broken p q ↔ broken' p q) : Tells found broken' := by
  obtain ⟨vs, all, ordered, told⟩ := h
  exact ⟨vs, fun v => (all v).trans (same v.place v.problem), ordered, told⟩

theorem tells_silent (h : ∀ p q, ¬broken p q) : Tells [] broken := ⟨[], by simp [h], .nil, rfl⟩

theorem tells_single (p : Document.Place) (q : Problem) : Tells [⟨p.path, q⟩] fun p' q' => p' = p ∧ q' = q := by
  refine ⟨[⟨p, q⟩], fun v => ?_, List.pairwise_singleton _ _, rfl⟩
  obtain ⟨p', q'⟩ := v
  simp

theorem tells_when {c : Prop} [Decidable c] (p : Document.Place) (q : Problem) :
    Tells (if c then [⟨p.path, q⟩] else []) fun p' q' => p' = p ∧ q' = q ∧ c := by
  by_cases hc : c
  · rw [if_pos hc]
    exact (tells_single p q).congr fun _ _ => by simp [hc]
  · rw [if_neg hc]
    exact tells_silent fun _ _ h => hc h.2.2

theorem Tells.append (h : Tells found broken) (k : Tells more broken')
    (apart : ∀ p q p' q', broken p q → broken' p' q' → p.Before p') :
    Tells (found ++ more) fun p q => broken p q ∨ broken' p q := by
  obtain ⟨vs, all, ordered, rfl⟩ := h
  obtain ⟨ws, all', ordered', rfl⟩ := k
  refine ⟨vs ++ ws, fun v => ?_, ?_, by rw [List.map_append]⟩
  · rw [List.mem_append, all, all']
  · refine List.pairwise_append.2 ⟨ordered, ordered', fun v hv w hw => ?_⟩
    exact apart _ _ _ _ ((all v).1 hv) ((all' w).1 hw)

theorem Tells.flatMap {κ : Type} {xs : List κ} {found : κ → List Issue} {broken : κ → Document.Place → Problem → Prop}
    (each : ∀ x ∈ xs, Tells (found x) (broken x))
    (apart : xs.Pairwise fun x y => ∀ p q p' q', broken x p q → broken y p' q' → p.Before p') :
    Tells (xs.flatMap found) fun p q => ∃ x ∈ xs, broken x p q := by
  induction xs with
  | nil => exact tells_silent fun _ _ => by simp
  | cons x xs ih =>
    obtain ⟨first, rest⟩ := List.pairwise_cons.1 apart
    have here := each x List.mem_cons_self
    have there := ih (fun y hy => each y (List.mem_cons_of_mem x hy)) rest
    rw [List.flatMap_cons]
    refine (here.append there ?_).congr fun p q => by simp
    rintro p q p' q' hp ⟨y, hy, hp'⟩
    exact first y hy p q p' q' hp hp'

theorem tells_option {κ : Type} {o : Option κ} {found : κ → List Issue} {broken : κ → Document.Place → Problem → Prop}
    (each : ∀ x ∈ o, Tells (found x) (broken x)) : Tells (o.elim [] found) fun p q => ∃ x ∈ o, broken x p q := by
  cases o with
  | none => exact tells_silent fun _ _ => by simp
  | some x => exact (each x rfl).congr fun p q => by simp

theorem tells_option_at {κ : Type} {o : Option κ} {found : κ → List Issue} {wrong : κ → Problem → Prop}
    (site : Document.Place) (each : ∀ x, Tells (found x) fun p q => p = site ∧ wrong x q) :
    Tells (o.elim [] found) fun p q => p = site ∧ ∃ x ∈ o, wrong x q := by
  refine (tells_option fun x _ => each x).congr fun p q => ?_
  constructor
  · rintro ⟨x, hx, here, hq⟩
    exact ⟨here, x, hx, hq⟩
  · rintro ⟨here, x, hx, hq⟩
    exact ⟨x, hx, here, hq⟩

theorem tells_issuesOf {α : Type} {xs : List α} {path : Path} {check : Path → α → List Issue}
    {broken : Nat → α → Document.Place → Problem → Prop}
    (each : ∀ i x, xs[i]? = some x → Tells (check (path ++ [.index i]) x) (broken i x))
    (apart : ∀ i j, i < j → ∀ x y p q p' q', broken i x p q → broken j y p' q' → p.Before p') :
    Tells (issuesOf path check xs) fun p q => ∃ i x, xs[i]? = some x ∧ broken i x p q := by
  have flat : issuesOf path check xs = xs.zipIdx.flatMap fun x => check (path ++ [.index x.2]) x.1 := by
    rw [issuesOf, List.mapIdx_eq_zipIdx_map, List.flatMap_def]
  have indices : xs.zipIdx.Pairwise (·.2 < ·.2) := by
    rw [← List.pairwise_map, List.zipIdx_map_snd]
    exact List.pairwise_lt_range'
  have told : Tells (xs.zipIdx.flatMap fun x => check (path ++ [.index x.2]) x.1) fun p q =>
      ∃ x ∈ xs.zipIdx, broken x.2 x.1 p q := by
    apply Tells.flatMap
    · rintro ⟨x, i⟩ hx
      exact each i x (List.mk_mem_zipIdx_iff_getElem?.1 hx)
    · exact indices.imp fun {x y} before p q p' q' => apart x.2 y.2 before x.1 y.1 p q p' q'
  rw [flat]
  refine told.congr fun p q => ?_
  simp only [Prod.exists, List.mk_mem_zipIdx_iff_getElem?]
  exact exists_comm

end

namespace Target

def Valid (t : Target) : Prop := ∀ f uri, t.link f = some uri → ∃ u, Url.parse uri = .ok u

variable {t : Target} {path : Path}

theorem valid_iff : t.Valid ↔ ∀ f q, ¬t.Breaks f q := by
  constructor
  · rintro valid f q ⟨named, refused⟩
    obtain ⟨u, accepted⟩ := valid f _ named
    rw [accepted] at refused
    cases refused
  · intro sound f uri named
    cases parsed : Url.parse uri with
    | ok u => exact ⟨u, rfl⟩
    | error fault => exact absurd (.link named parsed) (sound f _)

def linkIssues (path : Path) (t : Target) (f : Field) : List Issue :=
  match t.link f with
  | none => []
  | some uri =>
    match Url.parse uri with
    | .ok _ => []
    | .error fault => [⟨path ++ [.key f.name], .badUri uri fault⟩]

theorem links_eq (t : Target) : t.links = Field.all.filterMap fun f => (t.link f).map (f.name, ·) := rfl

theorem issues_eq_flatMap : t.issues path = Field.all.flatMap (t.linkIssues path) := by
  rw [issues, links_eq, List.filterMap_filterMap, List.filterMap_eq_flatMap_toList]
  congr 1
  funext f
  rw [linkIssues]
  cases t.link f with
  | none => rfl
  | some uri =>
    dsimp only [Option.map_some, Option.bind_some]
    cases Url.parse uri <;> rfl

theorem tells_linkIssues {site : Document.Place} {f : Field} (here : site.path = path ++ [.key f.name]) :
    Tells (t.linkIssues path f) fun p q => p = site ∧ t.Breaks f q := by
  unfold linkIssues
  split
  · next absent =>
    apply tells_silent
    rintro p q ⟨-, ⟨named, -⟩⟩
    rw [absent] at named
    cases named
  · next uri present =>
    split
    · next u accepted =>
      apply tells_silent
      rintro p q ⟨-, ⟨named, refused⟩⟩
      rw [present] at named
      cases named
      rw [accepted] at refused
      cases refused
    · next fault refused =>
      rw [← here]
      refine (tells_single site _).congr fun p q => and_congr_right fun _ => ?_
      constructor
      · rintro rfl
        exact .link present refused
      · rintro ⟨named, refused'⟩
        rw [present] at named
        cases named
        rw [refused] at refused'
        cases refused'
        rfl

theorem tells_issues {site : Field → Document.Place} (here : ∀ f, (site f).path = path ++ [.key f.name])
    (ordered : ∀ f g, f.rank < g.rank → (site f).Before (site g)) :
    Tells (t.issues path) fun p q => ∃ f, p = site f ∧ t.Breaks f q := by
  have told : Tells (Field.all.flatMap (t.linkIssues path)) fun p q => ∃ f ∈ Field.all, p = site f ∧ t.Breaks f q := by
    apply Tells.flatMap
    · intro f _
      exact tells_linkIssues (here f)
    · have ranks : Field.all.Pairwise (·.rank < ·.rank) := by decide
      refine ranks.imp fun {f g} before => ?_
      rintro p q p' q' ⟨rfl, -⟩ ⟨rfl, -⟩
      exact ordered f g before
  rw [issues_eq_flatMap]
  exact told.congr fun p q => by simp only [Field.mem_all, true_and]

end Target

namespace Condition

structure Valid (c : Condition) : Prop where
  tags : ∀ tags ∈ c.lang, ∀ tag ∈ tags, ∃ x ∈ tag.toList, ¬Text.isBlank x
  dateRange : ∀ r ∈ c.dateRange, ∀ start ∈ r.start, ∀ finish ∈ r.finish, start ≤ finish
  rollout : ∀ r ∈ c.rollout, r.percentage.IsPercentage

theorem valid_iff {c : Condition} : c.Valid ↔ ∀ p q, ¬c.Breaks p q := by
  constructor
  · rintro ⟨tags, dateRange, rollout⟩ p q broken
    cases broken with
    | tag present listed blank =>
      obtain ⟨x, hx, solid⟩ := tags _ present _ (List.mem_of_getElem? listed)
      exact solid (blank x hx)
    | dateRange present starts ends reversed => exact reversed (dateRange _ present _ starts _ ends)
    | rollout present outside => exact outside (rollout _ present)
  · intro sound
    refine ⟨fun tags present tag listed => ?_, fun r present start starts finish ends => ?_, fun r present => ?_⟩
    · by_contra blank
      obtain ⟨j, hj⟩ := List.getElem?_of_mem listed
      exact sound _ _ (.tag present hj fun x hx => by_contra fun solid => blank ⟨x, hx, solid⟩)
    · by_contra reversed
      exact sound _ _ (.dateRange present starts ends reversed)
    · by_contra outside
      exact sound _ _ (.rollout present outside)

variable {c : Condition} {q : Problem}

theorem breaks_tag_iff {j : Nat} :
    c.Breaks (.tag j) q ↔ q = .emptyTag ∧ ∃ tag, (c.lang.getD [])[j]? = some tag ∧ Text.allBlank tag := by
  constructor
  · intro h
    cases h with
    | tag present listed blank => exact ⟨rfl, _, by rwa [present], Text.allBlank_iff.2 blank⟩
  · rintro ⟨rfl, tag, listed, blank⟩
    cases present : c.lang with
    | none =>
      rw [present] at listed
      cases listed
    | some tags =>
      rw [present] at listed
      exact .tag present listed (Text.allBlank_iff.1 blank)

theorem tells_tags (i : Nat) :
    Tells (issuesOf [.key "rules", .index i, .key "if", .key "lang"] tagIssues (c.lang.getD []))
      fun p q => ∃ j, p = .rule i (.tag j) ∧ c.Breaks (.tag j) q := by
  have told : Tells (issuesOf [.key "rules", .index i, .key "if", .key "lang"] tagIssues (c.lang.getD [])) fun p q =>
      ∃ j tag, (c.lang.getD [])[j]? = some tag ∧ p = .rule i (.tag j) ∧ q = .emptyTag ∧ Text.allBlank tag := by
    apply tells_issuesOf
    · intro j tag _
      exact tells_when (.rule i (.tag j)) .emptyTag
    · rintro j k before tag tag' p q p' q' ⟨rfl, -⟩ ⟨rfl, -⟩
      simp [Rule.Place.rank, List.cons_lt_cons_iff, before]
  refine told.congr fun p q => exists_congr fun j => ?_
  rw [breaks_tag_iff]
  constructor
  · rintro ⟨tag, listed, here, named, blank⟩
    exact ⟨here, named, tag, listed, blank⟩
  · rintro ⟨here, named, tag, listed, blank⟩
    exact ⟨tag, listed, here, named, blank⟩

theorem breaks_dateRange_iff : c.Breaks .dateRange q ↔ ∃ r ∈ c.dateRange,
    q = .reversed ∧ ∃ start finish, r.start = some start ∧ r.finish = some finish ∧ ¬start ≤ finish := by
  constructor
  · intro h
    cases h with
    | dateRange present starts ends reversed => exact ⟨_, present, rfl, _, _, starts, ends, reversed⟩
  · rintro ⟨r, present, rfl, start, finish, starts, ends, reversed⟩
    exact .dateRange present starts ends reversed

theorem tells_rangeIssues (site : Document.Place) (r : DateRange) :
    Tells (rangeIssues site.path r) fun p q => p = site ∧
      q = .reversed ∧ ∃ start finish, r.start = some start ∧ r.finish = some finish ∧ ¬start ≤ finish := by
  rw [rangeIssues]
  split
  · next start finish starts ends =>
    rw [← ite_not]
    exact (tells_when site .reversed).congr fun p q => by simp [starts, ends]
  · next missing =>
    apply tells_silent
    rintro p q ⟨-, -, start, finish, starts, ends, -⟩
    exact missing _ _ starts ends

theorem tells_dateRange (i : Nat) :
    Tells (c.dateRange.elim [] (rangeIssues [.key "rules", .index i, .key "if", .key "dateRange"]))
      fun p q => p = .rule i .dateRange ∧ c.Breaks .dateRange q := by
  simp only [breaks_dateRange_iff]
  exact tells_option_at (.rule i .dateRange) (tells_rangeIssues _)

theorem breaks_rollout_iff : c.Breaks .rollout q ↔
    ∃ r ∈ c.rollout, q = .percentage r.percentage ∧ ¬r.percentage.within 0 100 := by
  constructor
  · intro h
    cases h with
    | rollout present outside => exact ⟨_, present, rfl, mt Binary64.within_iff.1 outside⟩
  · rintro ⟨r, present, rfl, outside⟩
    exact .rollout present (mt Binary64.within_iff.2 outside)

theorem tells_rolloutIssues (site : Document.Place) (r : Rollout) :
    Tells (rolloutIssues site.path r) fun p q => p = site ∧
      q = .percentage r.percentage ∧ ¬r.percentage.within 0 100 := by
  rw [rolloutIssues, ← ite_not]
  exact tells_when site (.percentage r.percentage)

theorem tells_rollout (i : Nat) :
    Tells (c.rollout.elim [] (rolloutIssues [.key "rules", .index i, .key "if", .key "rollout"]))
      fun p q => p = .rule i .rollout ∧ c.Breaks .rollout q := by
  simp only [breaks_rollout_iff]
  exact tells_option_at (.rule i .rollout) (tells_rolloutIssues _)

theorem tells_issues (i : Nat) :
    Tells (c.issues [.key "rules", .index i, .key "if"]) fun p q => ∃ s, p = .rule i s ∧ c.Breaks s q := by
  have tags_first (p : Document.Place) (q : Problem) (p' : Document.Place) (q' : Problem)
      (hp : ∃ j, p = .rule i (.tag j) ∧ c.Breaks (.tag j) q) (hp' : p' = .rule i .dateRange ∧ c.Breaks .dateRange q') :
      p.Before p' := by
    obtain ⟨j, rfl, -⟩ := hp
    simp [hp'.1, Rule.Place.rank, List.cons_lt_cons_iff]
  refine (((tells_tags i).append (tells_dateRange i) tags_first).append (tells_rollout i) ?_).congr ?_
  · rintro p q p' q' (⟨j, rfl, -⟩ | ⟨rfl, -⟩) ⟨rfl, -⟩ <;> simp [Rule.Place.rank, List.cons_lt_cons_iff]
  · intro p q
    constructor
    · rintro ((⟨j, here, broken⟩ | ⟨here, broken⟩) | ⟨here, broken⟩) <;> exact ⟨_, here, broken⟩
    · rintro ⟨s, here, broken⟩
      cases s with
      | link f => cases broken
      | tag j => exact .inl (.inl ⟨j, here, broken⟩)
      | dateRange => exact .inl (.inr ⟨here, broken⟩)
      | rollout => exact .inr ⟨here, broken⟩

end Condition

theorem Rule.tells_issues {r : Rule} (i : Nat) :
    Tells (r.issues [.key "rules", .index i]) fun p q => ∃ s, p = .rule i s ∧ r.Breaks s q := by
  have target : Tells (r.target.issues [.key "rules", .index i, .key "target"]) fun p q =>
      ∃ f, p = .rule i (.link f) ∧ r.target.Breaks f q := by
    apply Target.tells_issues
    · intro f
      rfl
    · intro f g before
      simp [Rule.Place.rank, List.cons_lt_cons_iff, before]
  have condition : Tells (r.condition.elim [] (Condition.issues [.key "rules", .index i, .key "if"])) fun p q =>
      ∃ c ∈ r.condition, ∃ s, p = .rule i s ∧ c.Breaks s q :=
    tells_option fun c _ => Condition.tells_issues i
  refine (target.append condition ?_).congr ?_
  · rintro p q p' q' ⟨f, rfl, -⟩ ⟨c, -, s, rfl, broken⟩
    cases broken <;> simp [Rule.Place.rank, List.cons_lt_cons_iff]
  · intro p q
    constructor
    · rintro (⟨f, here, broken⟩ | ⟨c, present, s, here, broken⟩)
      · exact ⟨_, here, .target broken⟩
      · exact ⟨_, here, .condition present broken⟩
    · rintro ⟨s, here, broken⟩
      cases broken with
      | target broken => exact .inl ⟨_, here, broken⟩
      | condition present broken => exact .inr ⟨_, present, _, here, broken⟩

namespace Document

structure Valid (d : Document) : Prop where
  something : d.rules ≠ [] ∨ d.default ≠ none
  rules : ∀ r ∈ d.rules, r.target.Valid ∧ ∀ c ∈ r.condition, c.Valid
  default : ∀ r ∈ d.default, r.target.Valid

variable (d : Document)

theorem tells_issues : Tells d.issues d.Breaks := by
  have nothing : Tells (if d.rules.isEmpty && d.default.isNone then [⟨[.key "rules"], .noRule⟩] else []) fun p q =>
      p = .whole ∧ q = .noRule ∧ (d.rules.isEmpty && d.default.isNone) = true := tells_when .whole .noRule
  have rules : Tells (issuesOf [.key "rules"] Rule.issues d.rules) fun p q =>
      ∃ i r, d.rules[i]? = some r ∧ ∃ s, p = .rule i s ∧ r.Breaks s q := by
    apply tells_issuesOf
    · intro i r _
      exact Rule.tells_issues i
    · rintro i j before r r' p q p' q' ⟨s, rfl, -⟩ ⟨s', rfl, -⟩
      simp [before]
  have default : Tells (d.default.elim [] fun r => r.target.issues [.key "default", .key "target"]) fun p q =>
      ∃ r ∈ d.default, ∃ f, p = .default f ∧ r.target.Breaks f q := by
    apply tells_option
    intro r _
    apply Target.tells_issues
    · intro f
      rfl
    · intro f g before
      exact Place.before_default.2 before
  refine ((nothing.append rules ?_).append default ?_).congr ?_
  · rintro p q p' q' ⟨rfl, -⟩ ⟨i, r, -, s, rfl, -⟩
    exact Place.whole_before nofun
  · rintro p q p' q' (⟨rfl, -⟩ | ⟨i, r, -, s, rfl, -⟩) ⟨r', -, f, rfl, -⟩
    · exact Place.whole_before nofun
    · exact Place.rule_before_default i s f
  · intro p q
    constructor
    · rintro ((⟨rfl, rfl, empty⟩ | ⟨i, r, listed, s, rfl, broken⟩) | ⟨r, present, f, rfl, broken⟩)
      · obtain ⟨rules, default⟩ := Bool.and_eq_true_iff.1 empty
        exact .nothing (List.isEmpty_iff.1 rules) (Option.isNone_iff_eq_none.1 default)
      · exact .rule listed broken
      · exact .default present broken
    · intro broken
      cases broken with
      | nothing rules default => exact .inl (.inl ⟨rfl, rfl, by rw [rules, default]; rfl⟩)
      | rule listed broken => exact .inl (.inr ⟨_, _, listed, _, rfl, broken⟩)
      | default present broken => exact .inr ⟨_, present, _, rfl, broken⟩

theorem mem_issues {i : Issue} : i ∈ d.issues ↔ ∃ v : Violation, d.Breaks v.place v.problem ∧ v.issue = i := by
  obtain ⟨vs, all, -, told⟩ := d.tells_issues
  simp only [told, List.mem_map, all]

variable {d}

theorem valid_iff : d.Valid ↔ ∀ p q, ¬d.Breaks p q := by
  constructor
  · rintro ⟨something, rules, default⟩ p q broken
    cases broken with
    | nothing none none' => exact something.elim (· none) (· none')
    | rule listed broken =>
      obtain ⟨target, condition⟩ := rules _ (List.mem_of_getElem? listed)
      cases broken with
      | target broken => exact Target.valid_iff.1 target _ _ broken
      | condition present broken => exact Condition.valid_iff.1 (condition _ present) _ _ broken
    | default present broken => exact Target.valid_iff.1 (default _ present) _ _ broken
  · intro sound
    refine ⟨?_, fun r hr => ⟨?_, fun c hc => ?_⟩, fun r hr => ?_⟩
    · by_contra nothing
      obtain ⟨rules, default⟩ := not_or.1 nothing
      exact sound _ _ (.nothing (not_not.1 rules) (not_not.1 default))
    · obtain ⟨i, hi⟩ := List.getElem?_of_mem hr
      exact Target.valid_iff.2 fun f q broken => sound _ _ (.rule hi (.target broken))
    · obtain ⟨i, hi⟩ := List.getElem?_of_mem hr
      exact Condition.valid_iff.2 fun p q broken => sound _ _ (.rule hi (.condition hc broken))
    · exact Target.valid_iff.2 fun f q broken => sound _ _ (.default hr broken)

theorem check_eq_ok {e : Document} (h : d.check = .ok e) : e = d ∧ d.issues = [] := by
  unfold check at h
  split at h
  · next silent =>
    cases h
    exact ⟨rfl, List.isEmpty_iff.1 silent⟩
  · cases h

theorem check_of_silent (h : d.issues = []) : d.check = .ok d := by
  rw [check, h]
  rfl

theorem check_of_found (h : d.issues ≠ []) : d.check = .error (.issues d.issues) :=
  if_neg (mt List.isEmpty_iff.1 h)

theorem issues_of_check {found : List Issue} (h : d.check = .error (.issues found)) : found = d.issues := by
  unfold check at h
  split at h
  · cases h
  · cases h
    rfl

theorem issues_eq_nil_iff : d.issues = [] ↔ d.Valid := by
  obtain ⟨vs, all, -, told⟩ := d.tells_issues
  rw [valid_iff, told, List.map_eq_nil_iff, List.eq_nil_iff_forall_not_mem]
  constructor
  · intro none p q broken
    exact none ⟨p, q⟩ ((all _).2 broken)
  · intro sound v hv
    exact sound _ _ ((all v).1 hv)

/-- A document is accepted just if it is valid. Else it is refused with one issue for each violation, in the order of
their places; the text of its path tells one from the others. -/
theorem check_tells_violations (d : Document) :
    (d.Valid → d.check = .ok d) ∧ ((∃ e, d.check = .ok e) ↔ d.Valid) ∧
      ∃ vs : List Violation, (∀ v, v ∈ vs ↔ d.Breaks v.place v.problem) ∧ vs.Pairwise (·.place.Before ·.place) ∧
        (¬d.Valid → d.check = .error (.issues (vs.map Violation.issue))) ∧
        ∀ v ∈ vs, ∀ w ∈ vs, v.issue.path.text = w.issue.path.text → v = w := by
  have accepted : d.Valid → d.check = .ok d := fun valid => check_of_silent (issues_eq_nil_iff.2 valid)
  have refused (invalid : ¬d.Valid) : d.check = .error (.issues d.issues) :=
    check_of_found (mt issues_eq_nil_iff.1 invalid)
  refine ⟨accepted, ?_, ?_⟩
  · constructor
    · rintro ⟨e, ok⟩
      by_contra invalid
      rw [refused invalid] at ok
      cases ok
    · intro valid
      exact ⟨d, accepted valid⟩
  · obtain ⟨vs, all, ordered, told⟩ := d.tells_issues
    rw [told] at refused
    refine ⟨vs, all, ordered, refused, fun v hv w hw same => ?_⟩
    exact eq_of_ordered ordered hv hw (Place.eq_of_text_eq same)

example : (Document.issues
    { rules := [{ target := { web := some "page" }, condition := some { lang := some ["en", " ", ""] } }],
      default := some { target := { ios := some "app://home", fallback := some "" } } }).map (·.path.text) =
    ["rules.0.target.web", "rules.0.if.lang.1", "rules.0.if.lang.2", "default.target.fallback"] := by
  decide +kernel

end Document

end DeepLink
