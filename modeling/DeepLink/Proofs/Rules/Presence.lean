import DeepLink.Proofs.Rules.Paths
import DeepLink.Proofs.Rules.Violations

/-!
Where the paths of issues lead. A path is followed name by name through the value that was read. It leads to what the
issue is about, unless that is a link under its other name: then it leads nowhere.
-/

namespace DeepLink

def Path.steps (path : Path) : List (List Char) := path.map (·.text.toList)

theorem Path.steps_cons (s : Step) (path : Path) : Path.steps (s :: path) = s.text.toList :: path.steps := rfl

def Path.below (front : Path) (name : String) : Path := front ++ [.key name]

namespace Json

inductive Part : Json → List Char → Json → Prop where
  | member {members : List (String × Json)} {name : String} {v : Json} (found : find? name members = some v) :
      Part (object members) name.toList v
  | item {items : List Json} {i : Nat} {v : Json} (listed : items[i]? = some v) :
      Part (array items) (Decimal.numeral i) v

inductive Leads : Json → List (List Char) → Json → Prop where
  | here (v : Json) : Leads v [] v
  | step {v w x : Json} {name : List Char} {names : List (List Char)} (part : Part v name w) (rest : Leads w names x) :
      Leads v (name :: names) x

theorem part_object {members : List (String × Json)} {name : String} {v : Json} :
    Part (object members) name.toList v ↔ find? name members = some v := by
  constructor
  · intro h
    generalize hn : name.toList = chars at h
    cases h with
    | member found =>
      obtain rfl := String.toList_inj.1 hn
      exact found
  · exact .member

theorem part_array {items : List Json} {i : Nat} {v : Json} :
    Part (array items) (Decimal.numeral i) v ↔ items[i]? = some v := by
  constructor
  · intro h
    generalize hn : Decimal.numeral i = chars at h
    cases h with
    | item listed =>
      obtain rfl := Decimal.numeral_injective hn
      exact listed
  · exact .item

theorem part_member? {v w : Json} {name : String} (object : v.IsObject) :
    Part v name.toList w ↔ v.member? name = some w := by
  obtain ⟨members, rfl⟩ := object
  exact part_object

theorem leads_nil {v x : Json} : Leads v [] x ↔ x = v := by
  constructor
  · intro h
    cases h
    rfl
  · rintro rfl
    exact .here x

theorem leads_cons {v x : Json} {name : List Char} {names : List (List Char)} :
    Leads v (name :: names) x ↔ ∃ w, Part v name w ∧ Leads w names x := by
  constructor
  · intro h
    cases h with
    | step part rest => exact ⟨_, part, rest⟩
  · rintro ⟨w, part, rest⟩
    exact .step part rest

theorem leads_single {v x : Json} {s : Step} : Leads v (Path.steps [s]) x ↔ Part v s.text.toList x := by
  simp only [Path.steps, List.map_cons, List.map_nil, leads_cons, leads_nil, exists_eq_right']

theorem leads_step {v x : Json} {s : Step} {path : Path} :
    Leads v (Path.steps (s :: path)) x ↔ ∃ w, Leads v (Path.steps [s]) w ∧ Leads w path.steps x := by
  simp only [leads_single]
  exact leads_cons

theorem leads_append {v x : Json} {front rest : Path} :
    Leads v (front ++ rest).steps x ↔ ∃ w, Leads v front.steps w ∧ Leads w rest.steps x := by
  induction front generalizing v with
  | nil => simp [Path.steps, leads_nil]
  | cons s front ih =>
    simp only [List.cons_append, Path.steps_cons, leads_cons, ih]
    constructor
    · rintro ⟨u, part, w, rest, onward⟩
      exact ⟨w, ⟨u, part, rest⟩, onward⟩
    · rintro ⟨w, ⟨u, part, rest⟩, onward⟩
      exact ⟨u, part, w, rest, onward⟩

theorem Part.unique {v w w' : Json} {name : List Char} (h : Part v name w) (k : Part v name w') : w = w' := by
  cases h with
  | member found => exact Option.some.inj (found.symm.trans (part_object.1 k))
  | item listed => exact Option.some.inj (listed.symm.trans (part_array.1 k))

theorem Leads.unique {v w w' : Json} {names : List (List Char)} (h : Leads v names w) (k : Leads v names w') :
    w = w' := by
  induction h with
  | here v => exact (leads_nil.1 k).symm
  | step part _ ih =>
    obtain ⟨u, part', rest⟩ := leads_cons.1 k
    exact ih (part.unique part' ▸ rest)

theorem leads_member {v w : Json} {name : String} (object : v.IsObject) :
    Leads v (Path.steps [.key name]) w ↔ v.member? name = some w := by
  rw [leads_single, Step.text_key, part_member? object]

variable {α : Type} {reads : Json → α → Prop}

theorem Optional.of_some {o : Option Json} {x : α} (h : Optional reads o (some x)) : ∃ v, o = some v ∧ reads v x := by
  cases h with
  | present _ read => exact ⟨_, rfl, read⟩

theorem forall₂_getElem? {β : Type} {related : β → α → Prop} {ys : List β} {xs : List α}
    (h : List.Forall₂ related ys xs) {i : Nat} {x : α} (listed : xs[i]? = some x) :
    ∃ y, ys[i]? = some y ∧ related y x := by
  induction h generalizing i with
  | nil => cases listed
  | cons hx _ ih =>
    cases i with
    | zero =>
      cases listed
      exact ⟨_, rfl, hx⟩
    | succ i => exact ih listed

theorem leads_item {items : List Json} {i : Nat} {w : Json} :
    Leads (array items) (Path.steps [.index i]) w ↔ items[i]? = some w := by
  rw [leads_single, Step.text, String.toList_ofList, part_array]

theorem Items.leads {v : Json} {xs : List α} (h : Items reads v xs) {i : Nat} {x : α} (listed : xs[i]? = some x) :
    ∃ w, Leads v (Path.steps [.index i]) w ∧ reads w x := by
  obtain ⟨each⟩ := h
  obtain ⟨w, hw, read⟩ := forall₂_getElem? each listed
  exact ⟨w, leads_item.2 hw, read⟩

theorem Items.of_leads {v w : Json} {xs : List α} (h : Items reads v xs) {i : Nat}
    (lead : Leads v (Path.steps [.index i]) w) : ∃ x, xs[i]? = some x ∧ reads w x := by
  obtain ⟨each⟩ := h
  exact forall₂_getElem? each.flip (leads_item.1 lead)

end Json

namespace Target

def Field.other? : Field → Option String
  | ios => some "deepLinkIOS"
  | android => some "deepLinkAndroid"
  | web => none
  | fallback => none

variable {v : Json} {t : Target} {f : Field} {uri : String}

theorem Reads.link (h : Reads v t) (f : Field) :
    (f.other? = none ∧ Json.Optional Json.IsString (v.member? f.name) (t.link f)) ∨
      ∃ other, f.other? = some other ∧ Json.Linked f.name other v (t.link f) := by
  cases f with
  | ios => exact .inr ⟨_, rfl, h.ios⟩
  | android => exact .inr ⟨_, rfl, h.android⟩
  | web => exact .inl ⟨rfl, h.web⟩
  | fallback => exact .inl ⟨rfl, h.fallback⟩

theorem Reads.member_link (h : Reads v t) (named : t.link f = some uri) :
    v.member? f.name = some (.string uri) ∨
      v.member? f.name = none ∧ ∃ other, f.other? = some other ∧ v.member? other = some (.string uri) := by
  rcases h.link f with ⟨-, said⟩ | ⟨other, renamed, ⟨-, said⟩ | ⟨absent, said⟩⟩ <;> rw [named] at said
  · obtain ⟨w, found, ⟨_⟩⟩ := said.of_some
    exact .inl found
  · obtain ⟨w, found, ⟨_⟩⟩ := said.of_some
    exact .inl found
  · obtain ⟨w, found, ⟨_⟩⟩ := said.of_some
    exact .inr ⟨absent, other, renamed, found⟩

theorem Reads.link_of_other (h : Reads v t) {other : String} (renamed : f.other? = some other)
    (found : v.member? other = some (.string uri)) : t.link f = some uri ∧ v.member? f.name = none := by
  rcases h.link f with ⟨plain, -⟩ | ⟨other', renamed', linked⟩
  · cases plain.symm.trans renamed
  · obtain rfl := Option.some.inj (renamed.symm.trans renamed')
    rcases linked with ⟨absent, -⟩ | ⟨absent, said⟩
    · cases absent.symm.trans found
    · rw [found] at said
      generalize t.link f = link at said
      cases said with
      | present _ read =>
        cases read
        exact ⟨rfl, absent⟩

end Target

inductive Path.OfTarget : Path → Prop where
  | rule (i : Nat) : OfTarget [.key "rules", .index i, .key "target"]
  | default : OfTarget [.key "default", .key "target"]

theorem Path.OfTarget.names_other {front : Path} (h : front.OfTarget) {f : Target.Field} {other : String}
    (renamed : f.other? = some other) : (front.below other).names = (front.below other).steps := by
  have plain : (Step.key other).Undotted := by
    cases f <;> cases renamed <;> decide
  apply Path.names_eq (List.append_ne_nil_of_right_ne_nil _ (List.cons_ne_nil _ _))
  have constant : ∀ name ∈ ["rules", "default", "target"], (Step.key name).Undotted := by decide
  cases h <;> simp [constant, plain, Step.undotted_index]

def Json.Renamed (raw : Json) (path : Path) : Prop :=
  ∃ (front : Path) (f : Target.Field) (other uri : String) (fault : Url.Fault), front.OfTarget ∧
    f.other? = some other ∧ path = front.below f.name ∧ raw.Leads (front.below other).names (.string uri) ∧
    Url.parse uri = .error fault

namespace Condition

theorem Reads.leads {v : Json} {c : Condition} {s : Rule.Place} {q : Problem} (h : Reads v c) (broken : c.Breaks s q) :
    ∃ (rest : Path) (w : Json), s.path = .key "if" :: rest ∧ v.Leads rest.steps w := by
  cases broken with
  | @tag tags j tag present listed _ =>
    obtain ⟨vs, found, items⟩ := (present ▸ h.lang).of_some
    obtain ⟨w, lead, -⟩ := items.leads listed
    exact ⟨[.key "lang", .index j], w, rfl, Json.leads_append.2 ⟨vs, (Json.leads_member h.object).2 found, lead⟩⟩
  | dateRange present =>
    obtain ⟨w, found, -⟩ := (present ▸ h.dateRange).of_some
    exact ⟨[.key "dateRange"], w, rfl, (Json.leads_member h.object).2 found⟩
  | rollout present =>
    obtain ⟨w, found, -⟩ := (present ▸ h.rollout).of_some
    exact ⟨[.key "rollout"], w, rfl, (Json.leads_member h.object).2 found⟩

end Condition

namespace Document

variable {raw : Json} {d : Document}

theorem Reads.leads_rule (h : Reads raw d) {i : Nat} {r : Rule} (listed : d.rules[i]? = some r) :
    ∃ v, raw.Leads (Path.steps [.key "rules", .index i]) v ∧ Rule.Reads v r := by
  rcases h.rules with ⟨-, none⟩ | ⟨rules, found, items⟩
  · rw [none] at listed
    cases listed
  · obtain ⟨v, lead, read⟩ := items.leads listed
    exact ⟨v, Json.leads_append.2 ⟨rules, (Json.leads_member h.object).2 found, lead⟩, read⟩

theorem Reads.leads_target (h : Reads raw d) {i : Nat} {r : Rule} (listed : d.rules[i]? = some r) :
    ∃ v, raw.Leads (Path.steps [.key "rules", .index i, .key "target"]) v ∧ Target.Reads v r.target := by
  obtain ⟨rule, lead, read⟩ := h.leads_rule listed
  obtain ⟨v, found, target⟩ := read.target
  exact ⟨v, Json.leads_append.2 ⟨rule, lead, (Json.leads_member read.object).2 found⟩, target⟩

theorem Reads.leads_default (h : Reads raw d) {r : DefaultRule} (present : d.default = some r) :
    ∃ v, raw.Leads (Path.steps [.key "default", .key "target"]) v ∧ Target.Reads v r.target := by
  obtain ⟨default, found, read⟩ := (present ▸ h.default).of_some
  obtain ⟨v, found', target⟩ := read.target
  exact ⟨v, Json.leads_append.2 ⟨default, (Json.leads_member h.object).2 found,
    (Json.leads_member read.object).2 found'⟩, target⟩

theorem Reads.target_at (h : Reads raw d) {front : Path} (target : front.OfTarget) {v : Json}
    (lead : raw.Leads front.steps v) : ∃ (t : Target) (site : Target.Field → Place), Target.Reads v t ∧
      ∀ f, site f ≠ .whole ∧ (site f).path = front.below f.name ∧ ∀ q, t.Breaks f q → d.Breaks (site f) q := by
  cases target with
  | rule i =>
    obtain ⟨rules, first, lead⟩ := Json.leads_step.1 lead
    obtain ⟨rule, second, third⟩ := Json.leads_step.1 lead
    rw [Json.leads_member h.object] at first
    rcases h.rules with ⟨absent, -⟩ | ⟨items, found, said⟩
    · cases absent.symm.trans first
    · obtain rfl := Option.some.inj (first.symm.trans found)
      obtain ⟨r, listed, read⟩ := said.of_leads second
      obtain ⟨target, named, read_target⟩ := read.target
      rw [Json.leads_member read.object] at third
      obtain rfl := Option.some.inj (third.symm.trans named)
      exact ⟨r.target, fun f => .rule i (.link f), read_target,
        fun f => ⟨nofun, rfl, fun q broken => .rule listed (.target broken)⟩⟩
  | default =>
    obtain ⟨default, first, second⟩ := Json.leads_step.1 lead
    rw [Json.leads_member h.object] at first
    have said := h.default
    rw [first] at said
    generalize present : d.default = o at said
    cases said with
    | null => cases Json.leads_single.1 second
    | @present _ r _ read =>
      obtain ⟨target, named, read_target⟩ := read.target
      rw [Json.leads_member read.object] at second
      obtain rfl := Option.some.inj (second.symm.trans named)
      exact ⟨r.target, .default, read_target, fun f => ⟨nofun, rfl, fun q broken => .default present broken⟩⟩

theorem Reads.leads_link {front : Path} {v : Json} {t : Target} {f : Target.Field} {uri : String}
    (lead : raw.Leads front.steps v) (read : Target.Reads v t) (named : t.link f = some uri) :
    (∃ w, raw.Leads (front.below f.name).steps w) ∨
      ∃ other, f.other? = some other ∧ raw.Leads (front.below other).steps (.string uri) := by
  rcases read.member_link named with found | ⟨-, other, renamed, found⟩
  · exact .inl ⟨_, Json.leads_append.2 ⟨v, lead, (Json.leads_member read.object).2 found⟩⟩
  · exact .inr ⟨other, renamed, Json.leads_append.2 ⟨v, lead, (Json.leads_member read.object).2 found⟩⟩

theorem Reads.leads_place (h : Reads raw d) {p : Place} {q : Problem} (broken : d.Breaks p q) :
    p = .whole ∨ (∃ w, raw.Leads p.path.names w) ∨ raw.Renamed p.path := by
  have link {front : Path} (target : front.OfTarget) {v : Json} {t : Target} {f : Target.Field}
      (lead : raw.Leads front.steps v) (read : Target.Reads v t) (wrong : t.Breaks f q)
      (here : p.path = front.below f.name) : (∃ w, raw.Leads p.path.names w) ∨ raw.Renamed p.path := by
    cases wrong with
    | @link uri fault named refused =>
      rcases Reads.leads_link lead read named with ⟨w, led⟩ | ⟨other, renamed, led⟩
      · exact .inl ⟨w, by rwa [p.names_path, here]⟩
      · exact .inr ⟨front, f, other, uri, fault, target, renamed, here, by rwa [target.names_other renamed], refused⟩
  cases broken with
  | nothing => exact .inl rfl
  | @rule i r s _ listed broken =>
    cases broken with
    | target wrong =>
      obtain ⟨v, lead, read⟩ := h.leads_target listed
      exact .inr (link (.rule i) lead read wrong rfl)
    | condition present wrong =>
      obtain ⟨rule, lead, read⟩ := h.leads_rule listed
      obtain ⟨c, found, said⟩ := (present ▸ read.condition).of_some
      obtain ⟨rest, w, path, inside⟩ := said.leads wrong
      have inside_rule : rule.Leads s.path.steps w := by
        rw [path]
        exact Json.leads_step.2 ⟨c, (Json.leads_member read.object).2 found, inside⟩
      refine .inr (.inl ⟨w, ?_⟩)
      rw [Place.names_path]
      exact Json.leads_append.2 ⟨rule, lead, inside_rule⟩
  | default present wrong =>
    obtain ⟨v, lead, read⟩ := h.leads_default present
    exact .inr (link .default lead read wrong rfl)

theorem Reads.of_renamed (h : Reads raw d) {path : Path} (renamed : raw.Renamed path) :
    (∃ p q, p ≠ .whole ∧ d.Breaks p q ∧ p.path = path) ∧ ∀ w, ¬raw.Leads path.names w := by
  obtain ⟨front, f, other, uri, fault, target, renamed, rfl, lead, refused⟩ := renamed
  rw [target.names_other renamed] at lead
  obtain ⟨v, lead_target, found⟩ := Json.leads_append.1 lead
  obtain ⟨t, site, read, sited⟩ := h.target_at target lead_target
  obtain ⟨some_field, here, broken⟩ := sited f
  rw [Json.leads_member read.object] at found
  obtain ⟨named, absent⟩ := read.link_of_other renamed found
  refine ⟨⟨site f, _, some_field, broken _ (.link named refused), here⟩, fun w led => ?_⟩
  rw [← here, Place.names_path, here] at led
  obtain ⟨v', lead', found'⟩ := Json.leads_append.1 led
  obtain rfl := lead_target.unique lead'
  rw [Json.leads_member read.object, absent] at found'
  cases found'

/-- The path of an issue leads to what it is about in the value that was read, but for the links that stand under
their other name: their paths lead nowhere. -/
theorem paths_lead_but_renamed {raw : Json} {found : List Issue} (formed : Shape.document raw.canonical = [])
    (refused : ofJson raw = .error (.issues found)) :
    (∀ i ∈ found, i.path.text ≠ "rules" → ((∃ v, raw.Leads i.path.names v) ↔ ¬raw.Renamed i.path)) ∧
      ((∀ i ∈ found, i.path.text ≠ "rules" → ∃ v, raw.Leads i.path.names v) ↔ ∀ path, ¬raw.Renamed path) := by
  obtain ⟨d, read⟩ := (Shape.document_eq_nil raw).1 formed
  rw [ofJson_of_reads read] at refused
  obtain rfl := issues_of_check refused
  have whole (p : Place) : p.path.text = "rules" ↔ p = .whole := by
    constructor
    · intro h
      exact Place.eq_of_text_eq (show p.path.text = (Place.path .whole).text from h)
    · rintro rfl
      rfl
  have each : ∀ i ∈ d.issues, i.path.text ≠ "rules" → ((∃ v, raw.Leads i.path.names v) ↔ ¬raw.Renamed i.path) := by
    intro i hi named
    obtain ⟨v, broken, rfl⟩ := d.mem_issues.1 hi
    constructor
    · rintro ⟨w, led⟩ renamed
      exact (read.of_renamed renamed).2 w led
    · intro plain
      rcases read.leads_place broken with here | led | renamed
      · exact absurd ((whole _).2 here) named
      · exact led
      · exact absurd renamed plain
  refine ⟨each, fun led path renamed => ?_, fun plain i hi named => (each i hi named).2 (plain i.path)⟩
  obtain ⟨⟨p, q, some_field, broken, rfl⟩, lost⟩ := read.of_renamed renamed
  have told : (⟨p.path, q⟩ : Issue) ∈ d.issues := d.mem_issues.2 ⟨⟨p, q⟩, broken, rfl⟩
  obtain ⟨w, lead⟩ := led _ told (mt (whole p).1 some_field)
  exact lost w lead

def renamed : Json :=
  .object [("rules", .array [.object
    [("if", .object [("lang", .array [.string "en", .string " "])]),
      ("target", .object [("deepLinkIOS", .string "nope")])]])]

def iosPath : Path := [.key "rules", .index 0, .key "target", .key "ios"]

def renamedIssues : List Issue :=
  [⟨iosPath, .badUri "nope" .noBase⟩, ⟨[.key "rules", .index 0, .key "if", .key "lang", .index 1], .emptyTag⟩]

theorem renamed_iosPath : renamed.Renamed iosPath := by
  have target : Path.OfTarget [.key "rules", .index 0, .key "target"] := .rule 0
  have other : Target.Field.other? .ios = some "deepLinkIOS" := rfl
  refine ⟨_, .ios, "deepLinkIOS", "nope", .noBase, target, other, rfl, ?_, by decide +kernel⟩
  rw [target.names_other other]
  refine Json.leads_step.2 ⟨_, (Json.leads_member ⟨_, rfl⟩).2 rfl, ?_⟩
  refine Json.leads_step.2 ⟨_, Json.leads_item.2 rfl, ?_⟩
  refine Json.leads_step.2 ⟨_, (Json.leads_member ⟨_, rfl⟩).2 rfl, ?_⟩
  exact (Json.leads_member ⟨_, rfl⟩).2 rfl

theorem paths_lead_but_renamed_ios :
    Shape.document renamed.canonical = [] ∧ ofJson renamed = .error (.issues renamedIssues) ∧
      ((∃ v, renamed.Leads iosPath.names v) ↔ ¬renamed.Renamed iosPath) := by
  have formed : Shape.document renamed.canonical = [] := by decide +kernel
  have refused : ofJson renamed = .error (.issues renamedIssues) := by decide +kernel
  refine ⟨formed, refused, ?_⟩
  exact (paths_lead_but_renamed formed refused).1 _ List.mem_cons_self (by decide)

theorem path_leads_nowhere :
    Shape.document renamed.canonical = [] ∧ ofJson renamed = .error (.issues renamedIssues) ∧
      ∃ i ∈ renamedIssues, i.path.text = "rules.0.target.ios" ∧ ∀ v, ¬renamed.Leads i.path.names v := by
  have formed : Shape.document renamed.canonical = [] := by decide +kernel
  have refused : ofJson renamed = .error (.issues renamedIssues) := by decide +kernel
  obtain ⟨d, read⟩ := (Shape.document_eq_nil renamed).1 formed
  exact ⟨formed, refused, _, List.mem_cons_self, by decide, (read.of_renamed renamed_iosPath).2⟩

end Document

end DeepLink
