import DeepLink.Proofs.Rules.Reading
import DeepLink.Proofs.Time.Refinement

namespace DeepLink

namespace Json

variable {α : Type} {read : Json → Option α} {reads : Json → α → Prop}

def Decodes (read : Json → Option α) (reads : Json → α → Prop) : Prop :=
  ∀ raw x, reads raw x → read raw.canonical = some x

theorem Decodes.optional (h : Decodes read reads) {v : Option Json} {x : Option α} (said : Optional reads v x) :
    optional read (v.map canonical) = some x := by
  cases said with
  | absent => rfl
  | null => rfl
  | present some_value said =>
    have canonical := mt canonical_eq_null.1 some_value
    rw [Option.map_some, Json.optional, h _ _ said, Option.map_some]
    exact fun he => canonical he

theorem Decodes.list (h : Decodes read reads) : Decodes (list? read) (Items reads) := by
  rintro _ _ ⟨each⟩
  rw [canonical, list?]
  induction each with
  | nil => rfl
  | cons hx _ ih => rw [canonicalItems, List.mapM_cons, h _ _ hx, ih]; rfl

theorem decodes_string : Decodes string? IsString := by
  rintro _ _ ⟨s⟩
  rfl

theorem unique_swap (name other : String) (members : List (String × Json)) :
    unique [name, other] members = unique [other, name] members := by
  have same (m : String × Json) : (m.1 ∈ [name, other]) = (m.1 ∈ [other, name]) := by simp [or_comm]
  simp only [unique, same]

theorem unique_name (name : String) (members : List (String × Json)) :
    unique [name] (canonicalMembers members) = some ((find? name members).map canonical) := by
  rw [unique_of_distinct (distinct_canonicalMembers _) (by simp), find?_canonicalMembers]

theorem slots_names (fields : List (List String × Form)) (names : List String)
    (h : fields.map (·.1) = names.map fun name => [name]) (members : List (String × Json)) :
    (object members).canonical.slots (.record fields) =
      some (names.map fun name => ((object members).member? name).map canonical) := by
  rw [canonical, slots]
  induction fields generalizing names with
  | nil =>
    obtain rfl : names = [] := by simpa using h.symm
    rfl
  | cons f fields ih =>
    cases names with
    | nil => cases h
    | cons name names =>
      have first : f.1 = [name] := (List.cons.inj h).1
      rw [List.mapM_cons, first, unique_name, ih names (List.cons.inj h).2]
      rfl

theorem unique_first {other : String} {members : List (String × Json)} (absent : find? other members = none)
    (name : String) :
    unique [name, other] (canonicalMembers members) = some ((find? name members).map canonical) := by
  rw [unique_of_distinct (distinct_canonicalMembers _), find?_canonicalMembers]
  intro o ho
  rw [List.mem_singleton.1 ho, find?_canonicalMembers, absent, Option.map_none]

theorem unique_linked {name other : String} {members : List (String × Json)} {link : Option String}
    (h : Linked name other (object members) link) :
    ∃ v, unique [name, other] (canonicalMembers members) = some v ∧ optional string? v = some link := by
  rcases h with ⟨absent, said⟩ | ⟨absent, said⟩
  · exact ⟨_, unique_first absent name, decodes_string.optional said⟩
  · exact ⟨_, (unique_swap name other _).trans (unique_first absent other), decodes_string.optional said⟩

end Json

theorem Os.decodes : Json.Decodes ofJson? Named := by
  intro _ _ h
  cases h with
  | name => exact ofName?_name _

theorem Instant.decodes : Json.Decodes ofJson? Stamped := by
  intro _ _ h
  cases h with
  | stamp standard => exact relaxed?_of_strict? standard

theorem DateRange.decodes : Json.Decodes ofJson? Reads := by
  rintro _ r ⟨⟨members, rfl⟩, start, finish⟩
  have slots := Json.slots_names [(["start"], .whole), (["end"], .whole)] ["start", "end"] rfl members
  simp only [ofJson?, form, slots, List.map_cons, List.map_nil, Instant.decodes.optional start,
    Instant.decodes.optional finish, Option.bind_eq_bind, Option.bind_some, Option.pure_def]

theorem Rollout.decodes : Json.Decodes ofJson? Reads := by
  intro _ _ h
  cases h with
  | number n => rfl
  | @object members n seed share seeded =>
    have slots := Json.slots_names [(["percentage"], .whole), (["seed"], .whole)]
      ["percentage", "seed"] rfl members
    have shared : (Json.find? "percentage" members).map Json.canonical = some (.number n) := by
      rw [share, Option.map_some, Json.canonical]
    rw [Json.canonical] at slots ⊢
    simp only [ofJson?, form, slots, List.map_cons, List.map_nil, Json.member?, shared,
      Json.decodes_string.optional seeded, Json.required, Json.number?, Option.bind_eq_bind, Option.bind_some,
      Option.pure_def]

theorem Condition.decodes : Json.Decodes ofJson? Reads := by
  rintro _ c ⟨⟨members, rfl⟩, os, lang, dateRange, rollout⟩
  have slots := Json.slots_names
    [(["os"], .whole), (["lang"], .whole), (["dateRange"], DateRange.form), (["rollout"], .whole)]
    ["os", "lang", "dateRange", "rollout"] rfl members
  simp only [ofJson?, form, slots, List.map_cons, List.map_nil, Os.decodes.list.optional os,
    Json.decodes_string.list.optional lang, DateRange.decodes.optional dateRange, Rollout.decodes.optional rollout,
    Option.bind_eq_bind, Option.bind_some, Option.pure_def]

theorem Target.decodes : Json.Decodes ofJson? Reads := by
  rintro _ t ⟨⟨members, rfl⟩, ios, android, web, fallback⟩
  obtain ⟨i, ios_slot, ios_read⟩ := Json.unique_linked ios
  obtain ⟨a, android_slot, android_read⟩ := Json.unique_linked android
  have web_read := Json.decodes_string.optional web
  have fallback_read := Json.decodes_string.optional fallback
  rw [Json.member?] at web_read fallback_read
  simp only [ofJson?, form, Json.canonical, Json.slots, List.mapM_cons, List.mapM_nil, ios_slot, android_slot,
    Json.unique_name, ios_read, android_read, web_read, fallback_read, Option.bind_eq_bind, Option.bind_some,
    Option.pure_def]

theorem Target.required_decodes {v : Option Json} {t : Target} (h : ∃ target ∈ v, Reads target t) :
    Json.required ofJson? (v.map Json.canonical) = some t := by
  obtain ⟨target, hv, said⟩ := h
  rw [Option.mem_def.1 hv]
  exact decodes target t said

theorem Rule.decodes : Json.Decodes ofJson? Reads := by
  rintro _ r ⟨⟨members, rfl⟩, target, reason, condition⟩
  have slots := Json.slots_names
    [(["if"], Condition.form), (["target"], Target.form), (["reason"], .whole)]
    ["if", "target", "reason"] rfl members
  simp only [ofJson?, form, slots, List.map_cons, List.map_nil, Condition.decodes.optional condition,
    Target.required_decodes target, Json.decodes_string.optional reason, Option.bind_eq_bind, Option.bind_some,
    Option.pure_def]

theorem DefaultRule.decodes : Json.Decodes ofJson? Reads := by
  rintro _ r ⟨⟨members, rfl⟩, target, reason⟩
  have slots := Json.slots_names [(["target"], Target.form), (["reason"], .whole)]
    ["target", "reason"] rfl members
  simp only [ofJson?, form, slots, List.map_cons, List.map_nil, Target.required_decodes target,
    Json.decodes_string.optional reason, Option.bind_eq_bind, Option.bind_some, Option.pure_def]

theorem Meta.decodes : Json.Decodes ofJson? Reads := by
  rintro _ m ⟨⟨members, rfl⟩, version, generatedAt⟩
  have slots := Json.slots_names [(["version"], .whole), (["generatedAt"], .whole)]
    ["version", "generatedAt"] rfl members
  simp only [ofJson?, form, slots, List.map_cons, List.map_nil, Json.decodes_string.optional version,
    Instant.decodes.optional generatedAt, Option.bind_eq_bind, Option.bind_some, Option.pure_def]

theorem Document.rules_decode {v : Option Json} {rules : List Rule}
    (h : v = none ∧ rules = [] ∨ ∃ items ∈ v, Json.Items Rule.Reads items rules) :
    Json.withDefault [] (Json.list? Rule.ofJson?) (v.map Json.canonical) = some rules := by
  rcases h with ⟨rfl, rfl⟩ | ⟨items, hv, said⟩
  · rfl
  · rw [Option.mem_def.1 hv]
    exact Rule.decodes.list items rules said

theorem Document.decodes : Json.Decodes ofJson? Reads := by
  rintro _ d ⟨⟨members, rfl⟩, rules, default, info⟩
  have slots := Json.slots_names
    [(["rules"], .items Rule.form), (["default"], DefaultRule.form), (["meta"], Meta.form)]
    ["rules", "default", "meta"] rfl members
  simp only [ofJson?, form, slots, List.map_cons, List.map_nil, rules_decode rules,
    DefaultRule.decodes.optional default, Meta.decodes.optional info, Option.bind_eq_bind, Option.bind_some,
    Option.pure_def]

end DeepLink
