import DeepLink.Json.Record
import Mathlib.Data.String.Basic

namespace DeepLink.Json

theorem mem_insert {m : String × Json} {name : String} {value : Json} {members : List (String × Json)}
    (h : m ∈ insert name value members) : m = (name, value) ∨ m ∈ members := by
  induction members with
  | nil => exact .inl (List.mem_singleton.1 h)
  | cons n rest ih =>
    obtain ⟨k, v⟩ := n
    simp only [insert] at h
    split at h
    · exact List.mem_cons.1 h
    split at h
    · exact .inr h
    rcases List.mem_cons.1 h with rfl | h
    · exact .inr List.mem_cons_self
    · exact (ih h).imp_right (List.mem_cons_of_mem _)

def Sorted (members : List (String × Json)) : Prop := members.Pairwise (·.1 < ·.1)

theorem sorted_insert {name : String} {value : Json} {members : List (String × Json)} (h : Sorted members) :
    Sorted (insert name value members) := by
  induction members with
  | nil => exact List.pairwise_singleton _ _
  | cons n rest ih =>
    obtain ⟨k, v⟩ := n
    obtain ⟨above, sorted⟩ := List.pairwise_cons.1 h
    simp only [insert]
    split
    · next lt =>
      refine List.pairwise_cons.2 ⟨fun m hm => ?_, h⟩
      rcases List.mem_cons.1 hm with rfl | hm
      · exact lt
      · exact lt_trans lt (above m hm)
    split
    · exact h
    · next nlt ne =>
      refine List.pairwise_cons.2 ⟨fun m hm => ?_, ih sorted⟩
      rcases mem_insert hm with rfl | hm
      · exact lt_of_le_of_ne (le_of_not_gt nlt) (Ne.symm ne)
      · exact above m hm

theorem sorted_canonicalMembers (members : List (String × Json)) : Sorted (canonicalMembers members) := by
  induction members with
  | nil => exact List.Pairwise.nil
  | cons m rest ih =>
    obtain ⟨name, v⟩ := m
    rw [canonicalMembers]
    exact sorted_insert ih

theorem find?_eq_none {name : String} {members : List (String × Json)} :
    find? name members = none ↔ ∀ m ∈ members, m.1 ≠ name := by
  induction members with
  | nil => simp [find?]
  | cons m rest ih =>
    obtain ⟨k, v⟩ := m
    rw [find?, Option.or_eq_none_iff, ih, List.forall_mem_cons, and_comm]
    simp

def Distinct (members : List (String × Json)) : Prop := members.Pairwise (·.1 ≠ ·.1)

theorem Sorted.distinct {members : List (String × Json)} (h : Sorted members) : Distinct members := h.imp ne_of_lt

theorem distinct_canonicalMembers (members : List (String × Json)) : Distinct (canonicalMembers members) :=
  (sorted_canonicalMembers members).distinct

theorem find?_of_distinct {m : String × Json} {members : List (String × Json)} (h : Distinct (m :: members)) :
    find? m.1 members = none :=
  find?_eq_none.2 fun n hn => ((List.pairwise_cons.1 h).1 n hn).symm

theorem unique_of_distinct {name : String} {others : List String} {members : List (String × Json)}
    (h : Distinct members) (absent : ∀ o ∈ others, find? o members = none) :
    unique (name :: others) members = some (find? name members) := by
  induction members with
  | nil => rfl
  | cons m rest ih =>
    obtain ⟨k, v⟩ := m
    have distinct := (List.pairwise_cons.1 h).2
    have absent_rest : ∀ o ∈ others, find? o rest = none := by
      intro o ho
      have := absent o ho
      rw [find?, Option.or_eq_none_iff] at this
      exact this.1
    have hk : k ∉ others := by
      intro ho
      have := absent k ho
      simp [find?] at this
    -- The first member is the one that is wanted, or is passed over.
    by_cases hn : k = name
    · subst hn
      have gone := find?_of_distinct h
      have none_left : rest.filter (fun m => m.1 ∈ k :: others) = [] := by
        rw [List.filter_eq_nil_iff]
        intro m hm
        simp only [List.mem_cons, decide_eq_true_eq, not_or]
        refine ⟨find?_eq_none.1 gone m hm, fun ho => ?_⟩
        exact find?_eq_none.1 (absent_rest _ ho) m hm rfl
      rw [unique, List.filter_cons_of_pos (by simp), none_left, find?, gone]
      simp
    · have ne : k ∉ name :: others := by simp [hn, hk]
      have rest_unique := ih distinct absent_rest
      rw [unique] at rest_unique ⊢
      rw [List.filter_cons_of_neg (by simpa using ne), rest_unique, find?]
      simp [hn]

def fieldOf (name : String) : List (String × Option Json) → Option Json
  | [] => none
  | (n, value) :: rest => (fieldOf name rest).or (if n = name then value else none)

theorem find?_fields (name : String) (fields : List (String × Option Json)) :
    find? name (fields.filterMap fun (n, value) => value.map (n, ·)) = fieldOf name fields := by
  induction fields with
  | nil => rfl
  | cons f rest ih =>
    obtain ⟨n, value⟩ := f
    cases value with
    | none => simp [fieldOf, ih]
    | some v => simp [fieldOf, find?, ih]

theorem distinct_fields {fields : List (String × Option Json)} (h : fields.Pairwise (·.1 ≠ ·.1)) :
    Distinct (fields.filterMap fun (n, value) => value.map (n, ·)) := by
  refine h.filterMap _ fun f g apart m hm n hn => ?_
  obtain ⟨v, -, rfl⟩ := Option.map_eq_some_iff.1 hm
  obtain ⟨w, -, rfl⟩ := Option.map_eq_some_iff.1 hn
  exact apart

theorem canonical_record (fields : List (String × Option Json)) :
    ∃ members, (record fields).canonical = object members := by
  rw [record, canonical]
  exact ⟨_, rfl⟩

theorem member?_record (name : String) (fields : List (String × Option Json)) :
    (record fields).member? name = fieldOf name fields := find?_fields name fields

theorem canonical_eq_null {v : Json} : v.canonical = null ↔ v = null := by
  cases v <;> simp [canonical]

theorem canonicalItems_eq_map (vs : List Json) : canonicalItems vs = vs.map canonical := by
  induction vs with
  | nil => rfl
  | cons v vs ih => rw [canonicalItems, ih, List.map_cons]

theorem canonical_ofList {α : Type} (write : α → Json) (xs : List α) :
    (ofList write xs).canonical = ofList (fun x => (write x).canonical) xs := by
  rw [ofList, canonical, canonicalItems_eq_map, List.map_map]
  rfl

structure Arranges (f : Json → Json) : Prop where
  null : f null = null
  bool (b : Bool) : f (bool b) = bool b
  number (n : Number) : f (number n) = number n
  string (s : String) : f (string s) = string s
  array (vs : List Json) : f (array vs) = array (vs.map f)
  object {members : List (String × Json)} (distinct : Distinct members) :
    ∃ arranged, f (object members) = object arranged ∧ Distinct arranged ∧
      ∀ name, find? name arranged = (find? name members).map f

theorem arranges_id : Arranges id where
  null := rfl
  bool _ := rfl
  number _ := rfl
  string _ := rfl
  array vs := by rw [List.map_id, id]
  object {members} distinct := ⟨members, rfl, distinct, fun name => Option.map_id.symm ▸ rfl⟩

theorem arranges_canonical : Arranges canonical where
  null := by rw [canonical]
  bool _ := by rw [canonical]
  number _ := by rw [canonical]
  string _ := by rw [canonical]
  array vs := by rw [canonical, canonicalItems_eq_map]
  object {members} _ :=
    ⟨canonicalMembers members, by rw [canonical], distinct_canonicalMembers members,
      fun name => find?_canonicalMembers name members⟩

namespace Arranges

variable {f : Json → Json} (hf : Arranges f)

include hf

theorem ofList {α : Type} (write : α → Json) (xs : List α) :
    f (ofList write xs) = Json.ofList (fun x => f (write x)) xs := by
  rw [Json.ofList, hf.array, List.map_map]
  rfl

theorem record {fields : List (String × Option Json)} (distinct : fields.Pairwise (·.1 ≠ ·.1)) :
    ∃ members, f (record fields) = .object members ∧ Distinct members ∧
      ∀ name, find? name members = (fieldOf name fields).map f := by
  obtain ⟨members, arranged, apart, found⟩ := hf.object (distinct_fields distinct)
  refine ⟨members, arranged, apart, fun name => ?_⟩
  rw [found, find?_fields]

theorem slots_record {want : List (List String × Form)} {fields : List (String × Option Json)}
    (distinct : fields.Pairwise (·.1 ≠ ·.1))
    (named : ∀ g ∈ want, g.1 ≠ [] ∧ ∀ o ∈ g.1.tail, fieldOf o fields = none) :
    (f (Json.record fields)).slots (.record want) =
      some (want.map fun g => (fieldOf (g.1.headD "") fields).map f) := by
  obtain ⟨members, arranged, apart, found⟩ := hf.record distinct
  rw [arranged, slots]
  induction want with
  | nil => rfl
  | cons g want ih =>
    obtain ⟨names, form⟩ := g
    obtain ⟨⟨some_name, absent⟩, rest⟩ := List.forall_mem_cons.1 named
    cases names with
    | nil => exact (some_name rfl).elim
    | cons name others =>
      have first : unique (name :: others) members = some ((fieldOf name fields).map f) := by
        rw [unique_of_distinct apart, found]
        intro o ho
        rw [found, absent o ho, Option.map_none]
      rw [List.mapM_cons]
      refine Option.bind_eq_some_iff.2 ⟨_, first, ?_⟩
      exact Option.bind_eq_some_iff.2 ⟨_, ih rest, rfl⟩

end Arranges

theorem ofBinary_finite {x : Binary64} (h : x.isFinite) : ofBinary x = number (.real x) := if_pos h

theorem optional_written {α : Type} {read : Json → Option α} {write : α → Json} {f : Json → Json} {o : Option α}
    (unread : read null = none) (h : ∀ x ∈ o, read (f (write x)) = some x) :
    optional read ((o.map write).map f) = some o := by
  cases o with
  | none => rfl
  | some x =>
    have hx := h x rfl
    have present : f (write x) ≠ null := by
      intro he
      rw [he, unread] at hx
      cases hx
    rw [Option.map_some, Option.map_some]
    unfold optional
    split
    · simp_all
    · simp_all
    · next v hv =>
      cases hv
      rw [hx, Option.map_some]

end DeepLink.Json
