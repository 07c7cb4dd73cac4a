import DeepLink.Proofs.Rules.Stamps
import DeepLink.Rules.Check

namespace DeepLink.Shape

variable {α : Type} {write : α → Json} {name : String} {fields : List (String × Option Json)}

theorem field_written (o : Option α) (h : Json.fieldOf name fields = o.map write)
    (present : ∀ x ∈ o, write x ≠ .null) (path : Path) (check : Path → Json → List Issue) :
    field path name check (Json.record fields).canonical =
      o.elim [] fun x => check (path ++ [.key name]) (write x).canonical := by
  rw [field, Json.member?_canonical, Json.member?_record, h]
  cases o with
  | none => rfl
  | some x =>
    have canonical := mt Json.canonical_eq_null.1 (present x rfl)
    rw [Option.map_some, Option.map_some]
    split
    · simp_all
    · simp_all
    · next v hv =>
      cases hv
      rfl

theorem field_dated {check : Path → Json → List Issue} {stamps : Path → α → List (Path × Instant)} (o : Option α)
    (h : Json.fieldOf name fields = o.map write) (present : ∀ x ∈ o, write x ≠ .null)
    (kind : ∀ x ∈ o, ∀ path, check path (write x).canonical = undated (stamps path x)) (path : Path) :
    field path name check (Json.record fields).canonical = undated (o.elim [] (stamps (path ++ [.key name]))) := by
  rw [field_written o h present]
  cases o with
  | none => rfl
  | some x => exact kind x rfl _

theorem field_silent {check : Path → Json → List Issue} (o : Option α) (h : Json.fieldOf name fields = o.map write)
    (present : ∀ x ∈ o, write x ≠ .null) (kind : ∀ x ∈ o, ∀ path, check path (write x).canonical = [])
    (path : Path) : field path name check (Json.record fields).canonical = [] := by
  rw [field_written o h present]
  cases o with
  | none => rfl
  | some x => exact kind x rfl _

theorem array_written {check : Path → Json → List Issue} {found : Path → α → List Issue} {xs : List α}
    (h : ∀ x ∈ xs, ∀ path, check path (write x).canonical = found path x) (path : Path) :
    array check path (Json.ofList write xs).canonical = issuesOf path found xs := by
  rw [Json.canonical_ofList, Json.ofList, array, items, issuesOf]
  congr 1
  rw [List.mapIdx_eq_iff]
  intro i
  rw [List.getElem?_mapIdx, List.getElem?_map]
  cases hx : xs[i]? with
  | none => rfl
  | some x => exact congrArg some (h x (List.mem_of_getElem? hx) _).symm

theorem object_record (check : Path → Json → List Issue) (path : Path) :
    object check path (Json.record fields).canonical = check path (Json.record fields).canonical := by
  rw [Json.record, Json.canonical, object]

theorem record_ne_null : Json.record fields ≠ .null := nofun

theorem string_string (path : Path) (s : String) : string path (Json.string s).canonical = [] := by
  rw [Json.canonical, string]

theorem field_string (s : Option String) (h : Json.fieldOf name fields = s.map Json.string) (path : Path) :
    field path name string (Json.record fields).canonical = [] :=
  field_silent s h nofun (fun s _ path => string_string path s) path

theorem field_list {check : Path → Json → List Issue} (xs : Option (List α))
    (h : Json.fieldOf name fields = xs.map (Json.ofList write))
    (kind : ∀ path x, check path (write x).canonical = []) (path : Path) :
    field path name (array check) (Json.record fields).canonical = [] := by
  refine field_silent xs h nofun (fun ys _ path => ?_) path
  rw [array_written fun x _ path => kind path x]
  simp [issuesOf]

theorem osName_toJson (path : Path) (os : Os) : osName path os.toJson.canonical = [] := by
  rw [Os.toJson, Json.canonical, osName, Os.ofName?_name]
  rfl

theorem stamp_toJson (path : Path) (t : Instant) : stamp path t.toJson.canonical = undated [(path, t)] := by
  rw [Instant.toJson, Json.canonical, stamp]
  by_cases h : t.FourDigits
  · simp [undated, h, Instant.strict?_text h]
  · simp [undated, h, Instant.strict?_text_of_not h]

theorem field_stamp (t : Option Instant) (h : Json.fieldOf name fields = t.map Instant.toJson) (path : Path) :
    field path name stamp (Json.record fields).canonical = undated (Instant.stamps (path ++ [.key name]) t) := by
  have present : ∀ u ∈ t, u.toJson ≠ .null := by simp [Instant.toJson]
  rw [field_written t h present]
  cases t with
  | none => rfl
  | some t => rw [Option.elim_some, stamp_toJson, Instant.stamps, Option.toList_some, List.map_singleton]

theorem link_string {other : String} (s : Option String) (h : Json.fieldOf name fields = s.map Json.string)
    (absent : Json.fieldOf other fields = none) (path : Path) :
    link path name other (Json.record fields).canonical = [] := by
  have missing : (Json.record fields).canonical.member? other = none := by
    rw [Json.member?_canonical, Json.member?_record, absent, Option.map_none]
  rw [link, field_string s h, field, missing]
  simp

theorem target_toJson (path : Path) (t : Target) : target path t.toJson.canonical = [] := by
  rw [target, Target.toJson, link_string t.ios (by simp [Json.fieldOf]) (by simp [Json.fieldOf]),
    link_string t.android (by simp [Json.fieldOf]) (by simp [Json.fieldOf]),
    field_string t.web (by simp [Json.fieldOf]), field_string t.fallback (by simp [Json.fieldOf])]
  rfl

theorem targetField_written (t : Target) (h : Json.fieldOf "target" fields = some t.toJson) (path : Path) :
    targetField path (Json.record fields).canonical = [] := by
  rw [targetField, Json.member?_canonical, Json.member?_record, h, Option.map_some]
  show object target _ t.toJson.canonical = []
  rw [Target.toJson, object_record, ← Target.toJson]
  exact target_toJson _ t

theorem dateRange_toJson (path : Path) (r : DateRange) :
    object dateRange path r.toJson.canonical = undated (r.stamps path) := by
  rw [DateRange.toJson, object_record, dateRange, field_stamp r.start (by simp [Json.fieldOf]),
    field_stamp r.finish (by simp [Json.fieldOf]), DateRange.stamps, undated_append]

theorem rollout_record (share : Json.Number) (seed : Option String)
    (shared : Json.fieldOf "percentage" fields = some (.number share))
    (seeded : Json.fieldOf "seed" fields = seed.map Json.string) (path : Path) :
    rollout path (Json.record fields).canonical = [] := by
  have found : (Json.record fields).canonical.member? "percentage" = some (.number share) := by
    rw [Json.member?_canonical, Json.member?_record, shared, Option.map_some, Json.canonical]
  have silent := field_string seed seeded path
  obtain ⟨members, object⟩ := Json.canonical_record fields
  rw [object] at found silent ⊢
  simp [rollout, found, silent]

theorem rollout_toJson {r : Rollout} (h : r.percentage.isFinite) (path : Path) :
    rollout path r.toJson.canonical = [] := by
  obtain ⟨percentage, seed⟩ := r
  cases seed with
  | none => rw [Rollout.toJson, Json.ofBinary_finite h, Json.canonical, rollout]
  | some seed =>
    rw [Rollout.toJson_seed h]
    exact rollout_record (.real percentage) (some seed) (by simp [Json.fieldOf]) (by simp [Json.fieldOf]) path

theorem rollout_ne_null {r : Rollout} (h : r.percentage.isFinite) : r.toJson ≠ .null := by
  rw [Rollout.toJson, Json.ofBinary_finite h]
  split <;> simp

theorem condition_toJson {c : Condition} (finite : ∀ r ∈ c.rollout, r.percentage.isFinite) (path : Path) :
    object condition path c.toJson.canonical = undated (c.stamps path) := by
  rw [Condition.toJson, object_record, condition, field_list c.os (by simp [Json.fieldOf]) osName_toJson,
    field_list c.lang (by simp [Json.fieldOf]) string_string,
    field_dated c.dateRange (by simp [Json.fieldOf]) (fun r _ => show r.toJson ≠ .null from record_ne_null)
      fun r _ path => dateRange_toJson path r,
    field_silent c.rollout (by simp [Json.fieldOf]) (fun r hr => rollout_ne_null (finite r hr))
      fun r hr path => rollout_toJson (finite r hr) path]
  rw [List.nil_append, List.nil_append, List.append_nil]
  rfl

theorem rule_toJson {r : Rule} (finite : ∀ p ∈ r.percentage?, p.isFinite) (path : Path) :
    object rule path r.toJson.canonical = undated (r.stamps path) := by
  have conditioned (c : Condition) (hc : c ∈ r.condition) (path : Path) :
      object condition path c.toJson.canonical = undated (c.stamps path) :=
    condition_toJson (fun o ho => finite o.percentage (Rule.mem_percentage? hc ho)) path
  rw [Rule.toJson, object_record, rule, targetField_written r.target (by simp [Json.fieldOf]),
    field_string r.reason (by simp [Json.fieldOf]),
    field_dated r.condition (by simp [Json.fieldOf]) (fun c _ => show c.toJson ≠ .null from record_ne_null)
      conditioned]
  rfl

theorem defaultRule_toJson (path : Path) (r : DefaultRule) :
    object defaultRule path r.toJson.canonical = [] := by
  rw [DefaultRule.toJson, object_record, defaultRule, targetField_written r.target (by simp [Json.fieldOf]),
    field_string r.reason (by simp [Json.fieldOf])]
  rfl

theorem info_toJson (path : Path) (m : Meta) : object info path m.toJson.canonical = undated (m.stamps path) := by
  rw [Meta.toJson, object_record, info, field_string m.version (by simp [Json.fieldOf]),
    field_stamp m.generatedAt (by simp [Json.fieldOf])]
  rfl

theorem rules_written {rs : List Rule} (h : Json.fieldOf "rules" fields = some (.ofList Rule.toJson rs))
    (finite : ∀ r ∈ rs, ∀ p ∈ r.percentage?, p.isFinite) :
    rules (Json.record fields).canonical =
      undated (rs.mapIdx fun i r => r.stamps [.key "rules", .index i]).flatten := by
  have issues := array_written (fun r hr path => rule_toJson (finite r hr) path) [.key "rules"]
  rw [rules, Json.member?_canonical, Json.member?_record, h, Option.map_some]
  show array (object rule) [.key "rules"] (Json.ofList Rule.toJson rs).canonical = _
  rw [issues, issuesOf, undated_flatten]
  congr 1
  rw [List.mapIdx_eq_iff]
  intro i
  simp [Function.comp_def]

theorem document_toJson {d : Document} (finite : ∀ p ∈ d.percentages, p.isFinite) :
    document d.toJson.canonical = undated d.stamps := by
  have finite_rules (r : Rule) (hr : r ∈ d.rules) (p : Binary64) (hp : p ∈ r.percentage?) : p.isFinite :=
    finite p (Document.mem_percentages hr hp)
  rw [Document.toJson, document, object_record, rules_written (by simp [Json.fieldOf]) finite_rules,
    field_silent d.default (by simp [Json.fieldOf]) (fun r _ => show r.toJson ≠ .null from record_ne_null)
      fun r _ path => defaultRule_toJson path r,
    field_dated d.info (by simp [Json.fieldOf]) (fun m _ => show m.toJson ≠ .null from record_ne_null)
      fun m _ path => info_toJson path m,
    List.append_nil, ← undated_append]
  rfl

end DeepLink.Shape
