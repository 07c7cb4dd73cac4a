import DeepLink.Proofs.Visitor.Replay

namespace DeepLink

namespace Language

structure Parts (s gap run rest : List Char) : Prop where
  whole : s = gap ++ (run ++ rest)
  blank : ∀ c ∈ gap, Text.isBlank c
  solid : ∀ c ∈ (run ++ rest).head?, Text.isBlank c = false
  letters : ∀ c ∈ run, c.isAlpha
  ended : ∀ c ∈ rest.head?, c.isAlpha = false

def LeadingRun (s run : List Char) : Prop := ∃ gap rest, Parts s gap run rest

theorem leadingRun_iff {s run : List Char} : LeadingRun s run ↔ run = (Text.trimStart s).takeWhile Char.isAlpha := by
  constructor
  · rintro ⟨gap, rest, parts⟩
    have start : Text.trimStart s = run ++ rest := by
      rw [parts.whole, Text.trimStart_append parts.blank]
      cases h : run ++ rest with
      | nil => rfl
      | cons c t => exact Text.trimStart_cons (parts.solid c (by rw [h]; rfl)) t
    have stopped : rest.takeWhile Char.isAlpha = [] := by
      cases rest with
      | nil => rfl
      | cons c t => exact List.takeWhile_cons_of_neg (Bool.eq_false_iff.1 (parts.ended c rfl))
    rw [start, List.takeWhile_append_of_pos parts.letters, stopped, List.append_nil]
  · rintro rfl
    refine ⟨s.takeWhile Text.isBlank, (Text.trimStart s).dropWhile Char.isAlpha, ?_, ?_, ?_, ?_, ?_⟩
    · rw [List.takeWhile_append_dropWhile]
      exact List.takeWhile_append_dropWhile.symm
    · exact List.all_eq_true.1 List.all_takeWhile
    · rw [List.takeWhile_append_dropWhile]
      intro c hc
      exact Text.stop_dropWhile hc
    · exact List.all_eq_true.1 List.all_takeWhile
    · intro c hc
      exact Text.stop_dropWhile hc

theorem LeadingRun.letters_eq {s run : List Char} (h : LeadingRun s run) : letters s = run.take 8 := by
  rw [letters, ← leadingRun_iff.1 h]

theorem lower_take_mem_neutralNames {run : List Char} :
    Text.lower (String.ofList (run.take 8)) ∈ neutralNames ↔ Text.lower (String.ofList run) ∈ neutralNames := by
  have short {name : String} (h : name ∈ neutralNames) : name.length < 8 := by
    simp only [neutralNames, List.mem_cons, List.not_mem_nil, or_false] at h
    rcases h with rfl | rfl <;> decide
  have length (s : List Char) : (Text.lower (String.ofList s)).length = s.length := by
    rw [← String.length_toList, Text.lower_toList, List.length_map, String.toList_ofList]
  by_cases few : run.length ≤ 8
  · rw [List.take_of_length_le few]
  · refine iff_of_false (fun h => ?_) (fun h => ?_)
    · have := short h
      rw [length, List.length_take] at this
      omega
    · have := short h
      rw [length] at this
      omega

theorem primary_of_leadingRun {s : String} {run : List Char} (h : LeadingRun s.toList run) :
    primary s =
      if run = [] then .error (.noLetters s)
      else if Text.lower (String.ofList run) ∈ neutralNames then .error (.neutral s)
      else .ok (Text.lower (String.ofList (run.take 8))) := by
  have taken : run.take 8 = [] ↔ run = [] := by simp [List.take_eq_nil_iff]
  have name : String.ofList ((run.take 8).map Char.toLower) = Text.lower (String.ofList (run.take 8)) := by
    rw [Text.lower, String.toList_ofList]
  unfold primary
  rw [h.letters_eq]
  split
  · next none => rw [if_pos (taken.1 none)]
  · next some_letter =>
    rw [if_neg (mt taken.2 some_letter)]
    by_cases neutral : Text.lower (String.ofList run) ∈ neutralNames
    · have cut := lower_take_mem_neutralNames.2 neutral
      simp only [name, List.contains_iff_mem, cut, neutral, if_true]
    · have cut := mt lower_take_mem_neutralNames.1 neutral
      simp only [name, List.contains_iff_mem, cut, neutral, if_false]

theorem IsName.leadingRun {name x : String} (h : IsName name) (apart : ∀ c ∈ x.toList.head?, c.isAlpha = false) :
    LeadingRun (name ++ x).toList name.toList := by
  refine ⟨[], x.toList, ?_, ?_, ?_, h.isAlpha, apart⟩
  · rw [String.toList_append, List.nil_append]
  · exact fun c hc => absurd hc List.not_mem_nil
  · -- a name is not empty, so what stands first is its own first letter
    obtain ⟨c, t, whole⟩ := List.exists_cons_of_ne_nil h.ne_nil
    intro d hd
    rw [whole] at hd
    cases hd
    apply Text.isBlank_of_isAlpha
    apply h.isAlpha
    rw [whole]
    exact List.mem_cons_self

theorem IsName.primary_append {name x : String} (h : IsName name) (apart : ∀ c ∈ x.toList.head?, c.isAlpha = false) :
    Language.primary (name ++ x) = .ok name := by
  have short : name.toList.take 8 = name.toList := by
    apply List.take_of_length_le
    rw [String.length_toList]
    exact h.short
  have named : name ∉ neutralNames := not_mem_neutralNames.2 h.named
  rw [primary_of_leadingRun (h.leadingRun apart), if_neg h.ne_nil, short, String.ofList_toList, h.lower_eq, if_neg named]

/-- The letters at the start decide alone: without one no language is named, as little as by the name of a locale
without a language, and else the first eight are the name. What is read from a name and any text that adds no letter to
it is the name. -/
theorem primary_reads_leading_run (s : String) :
    ∃ run, (∀ r, LeadingRun s.toList r ↔ r = run) ∧
      (primary s = .error (.noLetters s) ↔ run = []) ∧
      (primary s = .error (.neutral s) ↔
        Text.lower (String.ofList run) = "c" ∨ Text.lower (String.ofList run) = "posix") ∧
      (∀ l, primary s = .ok l ↔
        run ≠ [] ∧ ¬(Text.lower (String.ofList run) = "c" ∨ Text.lower (String.ofList run) = "posix") ∧
          l = Text.lower (String.ofList (run.take 8))) ∧
      ∀ l, primary s = .ok l →
        ∀ x : String, (∀ c ∈ x.toList.head?, c.isAlpha = false) → primary (l ++ x) = .ok l := by
  have names (run : List Char) : Text.lower (String.ofList run) ∈ neutralNames ↔
      Text.lower (String.ofList run) = "c" ∨ Text.lower (String.ofList run) = "posix" := by
    simp [neutralNames]
  have again (l : String) (h : primary s = .ok l) (x : String) (apart : ∀ c ∈ x.toList.head?, c.isAlpha = false) :
      primary (l ++ x) = .ok l := (isName_of_primary h).primary_append apart
  let run := (Text.trimStart s.toList).takeWhile Char.isAlpha
  have read := primary_of_leadingRun (leadingRun_iff.2 (rfl : run = _))
  refine ⟨run, fun r => leadingRun_iff, ?_⟩
  by_cases none : run = []
  · have unnamed : ¬(Text.lower (String.ofList run) = "c" ∨ Text.lower (String.ofList run) = "posix") := by
      rw [none]
      decide
    rw [if_pos none] at read
    exact ⟨iff_of_true read none, iff_of_false (by simp [read]) unnamed, fun l => by simp [read, none], again⟩
  rw [if_neg none] at read
  by_cases neutral : Text.lower (String.ofList run) ∈ neutralNames
  · rw [if_pos neutral] at read
    have named := (names run).1 neutral
    exact ⟨by simp [read, none], iff_of_true read named, fun l => by simp [read, named], again⟩
  · rw [if_neg neutral] at read
    have unnamed := mt (names run).2 neutral
    refine ⟨by simp [read, none], iff_of_false (by simp [read]) unnamed, fun l => ?_, again⟩
    rw [read, Except.ok.injEq]
    exact ⟨fun h => ⟨none, unnamed, h.symm⟩, fun h => h.2.2.symm⟩

end Language

end DeepLink
