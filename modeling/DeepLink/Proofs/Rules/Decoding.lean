import DeepLink.Proofs.Rules.Stamps

namespace DeepLink

section

variable {f : Json → Json} (hf : Json.Arranges f)

include hf

theorem Os.ofJson?_toJson (os : Os) : Os.ofJson? (f os.toJson) = some os := by
  rw [Os.toJson, hf.string, Os.ofJson?]
  exact Os.ofName?_name os

theorem Json.string?_string (s : String) : (f (.string s)).string? = some s := by
  rw [hf.string, Json.string?]

theorem Instant.ofJson?_toJson (t : Instant) : Instant.ofJson? (f t.toJson) = some t := by
  rw [Instant.toJson, hf.string, Instant.ofJson?, Json.string?, Option.bind_some, Instant.relaxed?_text]

theorem Json.optional_string (s : Option String) :
    Json.optional Json.string? ((s.map Json.string).map f) = some s :=
  Json.optional_written rfl fun s _ => Json.string?_string hf s

theorem Instant.optional_toJson (t : Option Instant) :
    Json.optional Instant.ofJson? ((t.map Instant.toJson).map f) = some t :=
  Json.optional_written rfl fun t _ => Instant.ofJson?_toJson hf t

theorem Json.optional_list {α : Type} {read : Json → Option α} {write : α → Json}
    (h : ∀ x, read (f (write x)) = some x) (xs : Option (List α)) :
    Json.optional (Json.list? read) ((xs.map (Json.ofList write)).map f) = some xs :=
  Json.optional_written rfl fun ys _ => by
    rw [hf.ofList]
    exact Json.list?_ofList fun x _ => h x

theorem DateRange.ofJson?_toJson (r : DateRange) : ofJson? (f r.toJson) = some r := by
  have slots : (f r.toJson).slots form =
      some [(r.start.map Instant.toJson).map f, (r.finish.map Instant.toJson).map f] := by
    rw [toJson, form, hf.slots_record (by simp) (by simp)]
    simp [Json.fieldOf]
  simp only [ofJson?, slots, Instant.optional_toJson hf, Option.bind_eq_bind, Option.bind_some, Option.pure_def]

theorem Rollout.ofJson?_toJson {r : Rollout} (h : r.percentage.isFinite) : ofJson? (f r.toJson) = some r := by
  obtain ⟨percentage, seed⟩ := r
  cases seed with
  | none => simp only [toJson, Json.ofBinary_finite h, hf.number, ofJson?, Json.Number.toBinary]
  | some seed =>
    have record := toJson_seed h seed
    have distinct : List.Pairwise (·.1 ≠ ·.1)
        [("percentage", some (Json.number (.real percentage))), ("seed", some (.string seed))] := by simp
    have slots : (f (toJson ⟨percentage, some seed⟩)).slots form =
        some [some (.number (.real percentage)), some (.string seed)] := by
      rw [record, form, hf.slots_record distinct (by simp)]
      simp [Json.fieldOf, hf.number, hf.string]
    obtain ⟨members, object, -⟩ := hf.record distinct
    rw [record, object] at slots ⊢
    simp only [ofJson?, slots, Json.required, Json.optional, Json.number?, Json.string?, Json.Number.toBinary,
      Option.bind_eq_bind, Option.bind_some, Option.pure_def, Option.map_some]

theorem Target.ofJson?_toJson (t : Target) : ofJson? (f t.toJson) = some t := by
  have slots : (f t.toJson).slots form =
      some [(t.ios.map Json.string).map f, (t.android.map Json.string).map f, (t.web.map Json.string).map f,
        (t.fallback.map Json.string).map f] := by
    rw [toJson, form, hf.slots_record (by simp) (by simp [Json.fieldOf])]
    simp [Json.fieldOf]
  simp only [ofJson?, slots, Json.optional_string hf, Option.bind_eq_bind, Option.bind_some, Option.pure_def]

theorem Condition.ofJson?_toJson {c : Condition} (finite : ∀ r ∈ c.rollout, r.percentage.isFinite) :
    ofJson? (f c.toJson) = some c := by
  have slots : (f c.toJson).slots form =
      some [(c.os.map (.ofList Os.toJson)).map f, (c.lang.map (.ofList .string)).map f,
        (c.dateRange.map DateRange.toJson).map f, (c.rollout.map Rollout.toJson).map f] := by
    rw [toJson, form, hf.slots_record (by simp) (by simp)]
    simp [Json.fieldOf]
  have dateRange : Json.optional DateRange.ofJson? ((c.dateRange.map DateRange.toJson).map f) = some c.dateRange :=
    Json.optional_written rfl fun r _ => DateRange.ofJson?_toJson hf r
  have rollout : Json.optional Rollout.ofJson? ((c.rollout.map Rollout.toJson).map f) = some c.rollout :=
    Json.optional_written rfl fun r hr => Rollout.ofJson?_toJson hf (finite r hr)
  simp only [ofJson?, slots, Json.optional_list hf (Os.ofJson?_toJson hf), Json.optional_list hf (Json.string?_string hf),
    dateRange, rollout, Option.bind_eq_bind, Option.bind_some, Option.pure_def]

theorem Rule.ofJson?_toJson {r : Rule} (finite : ∀ p ∈ r.percentage?, p.isFinite) :
    ofJson? (f r.toJson) = some r := by
  have slots : (f r.toJson).slots form =
      some [(r.condition.map Condition.toJson).map f, some (f r.target.toJson), (r.reason.map Json.string).map f] := by
    rw [toJson, form, hf.slots_record (by simp) (by simp)]
    simp [Json.fieldOf]
  have condition : Json.optional Condition.ofJson? ((r.condition.map Condition.toJson).map f) = some r.condition :=
    Json.optional_written rfl fun c hc =>
      Condition.ofJson?_toJson hf fun o ho => finite o.percentage (mem_percentage? hc ho)
  simp only [ofJson?, slots, condition, Json.required, Target.ofJson?_toJson hf, Json.optional_string hf,
    Option.bind_eq_bind, Option.bind_some, Option.pure_def]

theorem DefaultRule.ofJson?_toJson (r : DefaultRule) : ofJson? (f r.toJson) = some r := by
  have slots : (f r.toJson).slots form = some [some (f r.target.toJson), (r.reason.map Json.string).map f] := by
    rw [toJson, form, hf.slots_record (by simp) (by simp)]
    simp [Json.fieldOf]
  simp only [ofJson?, slots, Json.required, Target.ofJson?_toJson hf, Json.optional_string hf, Option.bind_eq_bind,
    Option.bind_some, Option.pure_def]

theorem Meta.ofJson?_toJson (m : Meta) : ofJson? (f m.toJson) = some m := by
  have slots : (f m.toJson).slots form =
      some [(m.version.map Json.string).map f, (m.generatedAt.map Instant.toJson).map f] := by
    rw [toJson, form, hf.slots_record (by simp) (by simp)]
    simp [Json.fieldOf]
  simp only [ofJson?, slots, Json.optional_string hf, Instant.optional_toJson hf, Option.bind_eq_bind,
    Option.bind_some, Option.pure_def]

theorem Document.ofJson?_toJson {d : Document} (finite : ∀ p ∈ d.percentages, p.isFinite) :
    ofJson? (f d.toJson) = some d := by
  have slots : (f d.toJson).slots form =
      some [some (f (Json.ofList Rule.toJson d.rules)), (d.default.map DefaultRule.toJson).map f,
        (d.info.map Meta.toJson).map f] := by
    rw [toJson, form, hf.slots_record (by simp) (by simp)]
    simp [Json.fieldOf]
  have rules : Json.list? Rule.ofJson? (f (Json.ofList Rule.toJson d.rules)) = some d.rules := by
    rw [hf.ofList]
    exact Json.list?_ofList fun r hr => Rule.ofJson?_toJson hf fun p hp => finite p (mem_percentages hr hp)
  have fallback : Json.optional DefaultRule.ofJson? ((d.default.map DefaultRule.toJson).map f) = some d.default :=
    Json.optional_written rfl fun r _ => DefaultRule.ofJson?_toJson hf r
  have info : Json.optional Meta.ofJson? ((d.info.map Meta.toJson).map f) = some d.info :=
    Json.optional_written rfl fun m _ => Meta.ofJson?_toJson hf m
  simp only [ofJson?, slots, Json.withDefault, rules, fallback, info, Option.bind_eq_bind, Option.bind_some,
    Option.pure_def]

end

end DeepLink
