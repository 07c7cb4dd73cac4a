import DeepLink.Proofs.Rules.Reading
import DeepLink.Rules.Shape

namespace DeepLink

namespace Json

variable {α : Type} {reads : Json → α → Prop}

theorem forall₂_exists {vs : List Json} : (∃ xs, List.Forall₂ reads vs xs) ↔ ∀ v ∈ vs, ∃ x, reads v x := by
  induction vs with
  | nil => simp
  | cons v vs ih =>
    rw [List.forall_mem_cons, ← ih]
    constructor
    · rintro ⟨_, each⟩
      cases each with
      | cons hx hxs => exact ⟨⟨_, hx⟩, _, hxs⟩
    · rintro ⟨⟨x, hx⟩, xs, hxs⟩
      exact ⟨x :: xs, .cons hx hxs⟩

theorem isObject_canonical {v : Json} : v.canonical.IsObject ↔ v.IsObject := by
  cases v <;> simp [IsObject, canonical]

end Json

namespace Shape

variable {α : Type} {check : Path → Json → List Issue} {reads : Json → α → Prop}

def Decides (check : Path → Json → List Issue) (reads : Json → α → Prop) : Prop :=
  ∀ path raw, check path raw.canonical = [] ↔ ∃ x, reads raw x

theorem Decides.field (h : Decides check reads) (path : Path) (name : String) (raw : Json) :
    field path name check raw.canonical = [] ↔ ∃ o, Json.Optional reads (raw.member? name) o := by
  rw [Shape.field, Json.member?_canonical]
  cases raw.member? name with
  | none => exact iff_of_true rfl ⟨none, .absent⟩
  | some v =>
    by_cases hv : v = .null
    · subst hv
      exact iff_of_true rfl ⟨none, .null⟩
    · have canonical := mt Json.canonical_eq_null.1 hv
      rw [Option.map_some]
      split
      · next he => cases he
      · next he => exact (canonical (Option.some.inj he)).elim
      · next he =>
        obtain rfl := Option.some.inj he
        rw [h]
        constructor
        · rintro ⟨x, hx⟩
          exact ⟨some x, .present hv hx⟩
        · rintro ⟨o, ho⟩
          cases ho with
          | null => exact (hv rfl).elim
          | present _ hx => exact ⟨_, hx⟩

theorem items_eq_nil {path : Path} {vs : List Json} :
    items check path vs = [] ↔ ∀ i v, vs[i]? = some v → check (path ++ [.index i]) v = [] := by
  rw [items, List.flatten_eq_nil_iff]
  simp only [List.mem_mapIdx]
  constructor
  · intro h i v hv
    obtain ⟨hi, rfl⟩ := List.getElem?_eq_some_iff.1 hv
    exact h _ ⟨i, hi, rfl⟩
  · rintro h _ ⟨i, hi, rfl⟩
    exact h i _ (List.getElem?_eq_getElem hi)

theorem Decides.array (h : Decides check reads) : Decides (array check) (Json.Items reads) := by
  intro path raw
  cases raw with
  | array vs =>
    have each : items check path (vs.map Json.canonical) = [] ↔ ∀ v ∈ vs, ∃ x, reads v x := by
      rw [items_eq_nil]
      constructor
      · intro silent v hv
        obtain ⟨i, hi⟩ := List.getElem?_of_mem hv
        exact (h _ v).1 (silent i v.canonical (by rw [List.getElem?_map, hi, Option.map_some]))
      · intro read i w hw
        rw [List.getElem?_map] at hw
        obtain ⟨v, hv, rfl⟩ := Option.map_eq_some_iff.1 hw
        exact (h _ v).2 (read v (List.mem_of_getElem? hv))
    rw [Json.canonical, Shape.array, Json.canonicalItems_eq_map, each, ← Json.forall₂_exists]
    constructor
    · rintro ⟨xs, hxs⟩
      exact ⟨xs, .items hxs⟩
    · rintro ⟨xs, ⟨hxs⟩⟩
      exact ⟨xs, hxs⟩
  | _ => exact iff_of_false (List.cons_ne_nil _ _) (by rintro ⟨_, ⟨⟩⟩)

theorem object_eq_nil {path : Path} {v : Json} : object check path v = [] ↔ v.IsObject ∧ check path v = [] := by
  cases v <;> simp [object, Json.IsObject]

theorem decides_object (members : ∀ path raw, raw.IsObject → (check path raw.canonical = [] ↔ ∃ x, reads raw x))
    (objects : ∀ raw x, reads raw x → raw.IsObject) : Decides (object check) reads := by
  intro path raw
  rw [object_eq_nil, Json.isObject_canonical]
  constructor
  · rintro ⟨ho, silent⟩
    exact (members path raw ho).1 silent
  · rintro ⟨x, hx⟩
    have ho := objects raw x hx
    exact ⟨ho, (members path raw ho).2 ⟨x, hx⟩⟩

theorem decides_string : Decides string Json.IsString := by
  intro path raw
  cases raw with
  | string s => exact iff_of_true rfl ⟨s, .string s⟩
  | _ => exact iff_of_false (List.cons_ne_nil _ _) (by rintro ⟨_, ⟨⟩⟩)

theorem decides_osName : Decides osName Os.Named := by
  intro path raw
  cases raw with
  | string s =>
    rw [Json.canonical, osName]
    cases hs : Os.ofName? s with
    | none =>
      refine iff_of_false (List.cons_ne_nil _ _) ?_
      rintro ⟨os, ⟨⟩⟩
      rw [Os.ofName?_name] at hs
      cases hs
    | some os =>
      have name : os.name = s := by simpa using List.find?_some hs
      exact iff_of_true rfl ⟨os, name ▸ .name os⟩
  | _ => exact iff_of_false (List.cons_ne_nil _ _) (by rintro ⟨_, ⟨⟩⟩)

theorem decides_stamp : Decides stamp Instant.Stamped := by
  intro path raw
  cases raw with
  | string s =>
    rw [Json.canonical, stamp]
    cases hs : Instant.strict? s with
    | none =>
      refine iff_of_false (List.cons_ne_nil _ _) ?_
      rintro ⟨t, ⟨standard⟩⟩
      rw [hs] at standard
      cases standard
    | some t => exact iff_of_true rfl ⟨t, .stamp hs⟩
  | _ => exact iff_of_false (List.cons_ne_nil _ _) (by rintro ⟨_, ⟨⟩⟩)

theorem link_eq_nil (path : Path) (name other : String) (raw : Json) :
    link path name other raw.canonical = [] ↔ ∃ o, Json.Linked name other raw o := by
  have absent (n : String) : (raw.canonical.member? n).isSome = (raw.member? n).isSome := by
    rw [Json.member?_canonical, Option.isSome_map]
  rw [link, List.append_eq_nil_iff, List.append_eq_nil_iff, decides_string.field, decides_string.field, absent, absent]
  constructor
  · rintro ⟨⟨⟨x, hx⟩, ⟨y, hy⟩⟩, once⟩
    cases ho : raw.member? other with
    | none => exact ⟨x, .inl ⟨ho, hx⟩⟩
    | some v =>
      cases hn : raw.member? name with
      | none => exact ⟨y, .inr ⟨hn, hy⟩⟩
      | some w => simp [ho, hn] at once
  · rintro ⟨o, ⟨ho, hx⟩ | ⟨hn, hy⟩⟩
    · exact ⟨⟨⟨o, hx⟩, ⟨none, ho ▸ .absent⟩⟩, by simp [ho]⟩
    · exact ⟨⟨⟨none, hn ▸ .absent⟩, ⟨o, hy⟩⟩, by simp [hn]⟩

theorem decides_target : Decides (object target) Target.Reads := by
  refine decides_object (fun path raw ho => ?_) fun raw t h => h.object
  simp only [target, List.append_eq_nil_iff, link_eq_nil, decides_string.field]
  constructor
  · rintro ⟨⟨⟨⟨i, ios⟩, ⟨a, android⟩⟩, ⟨w, web⟩⟩, ⟨f, fallback⟩⟩
    exact ⟨⟨i, a, w, f⟩, ho, ios, android, web, fallback⟩
  · rintro ⟨t, h⟩
    exact ⟨⟨⟨⟨_, h.ios⟩, ⟨_, h.android⟩⟩, ⟨_, h.web⟩⟩, ⟨_, h.fallback⟩⟩

theorem targetField_eq_nil (path : Path) (raw : Json) :
    targetField path raw.canonical = [] ↔ ∃ t, ∃ v ∈ raw.member? "target", Target.Reads v t := by
  rw [targetField, Json.member?_canonical]
  cases raw.member? "target" with
  | none => exact iff_of_false (List.cons_ne_nil _ _) (by simp)
  | some v =>
    have decided := decides_target (path ++ [.key "target"]) v
    simpa using decided

theorem decides_dateRange : Decides (object dateRange) DateRange.Reads := by
  refine decides_object (fun path raw ho => ?_) fun raw r h => h.object
  simp only [dateRange, List.append_eq_nil_iff, decides_stamp.field]
  constructor
  · rintro ⟨⟨s, start⟩, ⟨e, finish⟩⟩
    exact ⟨⟨s, e⟩, ho, start, finish⟩
  · rintro ⟨r, h⟩
    exact ⟨⟨_, h.start⟩, ⟨_, h.finish⟩⟩

theorem rollout_object_eq_nil (path : Path) (members : List (String × Json)) :
    rollout path (Json.object members).canonical = [] ↔
      (∃ n, Json.find? "percentage" members = some (.number n)) ∧
        ∃ seed, Json.Optional Json.IsString (Json.find? "seed" members) seed := by
  have share : Json.find? "percentage" (Json.canonicalMembers members) =
      (Json.find? "percentage" members).map Json.canonical := Json.find?_canonicalMembers _ _
  have seeded := decides_string.field path "seed" (.object members)
  rw [Json.canonical] at seeded
  rw [Json.canonical, rollout, List.append_eq_nil_iff, seeded, Json.member?, share]
  refine and_congr_left' ?_
  cases Json.find? "percentage" members with
  | none => simp
  | some v => cases v <;> simp [Json.canonical]

theorem decides_rollout : Decides rollout Rollout.Reads := by
  intro path raw
  cases raw with
  | number n => exact iff_of_true rfl ⟨_, .number n⟩
  | object members =>
    rw [rollout_object_eq_nil]
    constructor
    · rintro ⟨⟨n, share⟩, ⟨seed, seeded⟩⟩
      exact ⟨_, .object share seeded⟩
    · rintro ⟨r, h⟩
      cases h with
      | object share seeded => exact ⟨⟨_, share⟩, ⟨_, seeded⟩⟩
  | _ => exact iff_of_false (List.cons_ne_nil _ _) (by rintro ⟨_, ⟨⟩⟩)

theorem decides_condition : Decides (object condition) Condition.Reads := by
  refine decides_object (fun path raw ho => ?_) fun raw c h => h.object
  simp only [condition, List.append_eq_nil_iff, decides_osName.array.field, decides_string.array.field,
    decides_dateRange.field, decides_rollout.field]
  constructor
  · rintro ⟨⟨⟨⟨o, os⟩, ⟨l, lang⟩⟩, ⟨d, dateRange⟩⟩, ⟨r, rollout⟩⟩
    exact ⟨⟨o, l, d, r⟩, ho, os, lang, dateRange, rollout⟩
  · rintro ⟨c, h⟩
    exact ⟨⟨⟨⟨_, h.os⟩, ⟨_, h.lang⟩⟩, ⟨_, h.dateRange⟩⟩, ⟨_, h.rollout⟩⟩

theorem decides_rule : Decides (object rule) Rule.Reads := by
  refine decides_object (fun path raw ho => ?_) fun raw r h => h.object
  simp only [rule, List.append_eq_nil_iff, targetField_eq_nil, decides_string.field, decides_condition.field]
  constructor
  · rintro ⟨⟨⟨t, target⟩, ⟨s, reason⟩⟩, ⟨c, condition⟩⟩
    exact ⟨⟨c, t, s⟩, ho, target, reason, condition⟩
  · rintro ⟨r, h⟩
    exact ⟨⟨⟨_, h.target⟩, ⟨_, h.reason⟩⟩, ⟨_, h.condition⟩⟩

theorem decides_defaultRule : Decides (object defaultRule) DefaultRule.Reads := by
  refine decides_object (fun path raw ho => ?_) fun raw r h => h.object
  simp only [defaultRule, List.append_eq_nil_iff, targetField_eq_nil, decides_string.field]
  constructor
  · rintro ⟨⟨t, target⟩, ⟨s, reason⟩⟩
    exact ⟨⟨t, s⟩, ho, target, reason⟩
  · rintro ⟨r, h⟩
    exact ⟨⟨_, h.target⟩, ⟨_, h.reason⟩⟩

theorem decides_info : Decides (object info) Meta.Reads := by
  refine decides_object (fun path raw ho => ?_) fun raw m h => h.object
  simp only [info, List.append_eq_nil_iff, decides_string.field, decides_stamp.field]
  constructor
  · rintro ⟨⟨v, version⟩, ⟨g, generatedAt⟩⟩
    exact ⟨⟨v, g⟩, ho, version, generatedAt⟩
  · rintro ⟨m, h⟩
    exact ⟨⟨_, h.version⟩, ⟨_, h.generatedAt⟩⟩

theorem rules_eq_nil (raw : Json) : rules raw.canonical = [] ↔
    ∃ rs, raw.member? "rules" = none ∧ rs = [] ∨ ∃ v ∈ raw.member? "rules", Json.Items Rule.Reads v rs := by
  rw [rules, Json.member?_canonical]
  cases raw.member? "rules" with
  | none => exact iff_of_true rfl ⟨[], .inl ⟨rfl, rfl⟩⟩
  | some v =>
    have decided := decides_rule.array [.key "rules"] v
    simpa using decided

theorem document_eq_nil (raw : Json) : document raw.canonical = [] ↔ ∃ d, Document.Reads raw d := by
  refine decides_object (fun _ raw ho => ?_) (fun raw d h => h.object) [] raw
  simp only [List.append_eq_nil_iff, rules_eq_nil, decides_defaultRule.field, decides_info.field]
  constructor
  · rintro ⟨⟨⟨rs, rules⟩, ⟨d, default⟩⟩, ⟨i, info⟩⟩
    exact ⟨⟨rs, d, i⟩, ho, rules, default, info⟩
  · rintro ⟨d, h⟩
    exact ⟨⟨⟨_, h.rules⟩, ⟨_, h.default⟩⟩, ⟨_, h.info⟩⟩

end Shape

end DeepLink
