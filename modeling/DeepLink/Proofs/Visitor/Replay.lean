import DeepLink.Visitor.Detection
import Mathlib.Data.List.TakeWhile

namespace DeepLink

namespace Language

structure IsName (name : String) : Prop where
  small : ∀ c ∈ name.toList, c.isLower
  some_letter : 1 ≤ name.length
  short : name.length ≤ 8
  named : name ≠ "c" ∧ name ≠ "posix"

theorem not_mem_neutralNames {name : String} : name ∉ neutralNames ↔ name ≠ "c" ∧ name ≠ "posix" := by
  simp [neutralNames]

theorem isAlpha_of_mem_letters {s : List Char} {c : Char} (h : c ∈ letters s) : c.isAlpha :=
  List.all_eq_true.1 List.all_takeWhile c (List.mem_of_mem_take h)

theorem length_letters_le (s : List Char) : (letters s).length ≤ 8 := by
  rw [letters, List.length_take]
  exact Nat.min_le_left 8 _

theorem letters_eq_self {s : List Char} (h : ∀ c ∈ s, c.isAlpha) (short : s.length ≤ 8) : letters s = s := by
  have start : Text.trimStart s = s := Text.trimStart_eq_self fun c hc => Text.isBlank_of_isAlpha (h c hc)
  have all : s.takeWhile Char.isAlpha = s := List.takeWhile_eq_self_iff.2 h
  rw [letters, start, all, List.take_of_length_le short]

theorem primary_eq_ok_iff {s name : String} : primary s = .ok name ↔
    letters s.toList ≠ [] ∧ name = String.ofList ((letters s.toList).map Char.toLower) ∧ name ∉ neutralNames := by
  unfold primary
  split
  · next none => simp [none]
  · next some_letters =>
    have nonempty : letters s.toList ≠ [] := some_letters
    by_cases neutral : String.ofList ((letters s.toList).map Char.toLower) ∈ neutralNames
    · simp only [List.contains_iff_mem, neutral, if_true]
      constructor
      · rintro ⟨⟩
      · rintro ⟨-, rfl, named⟩
        exact absurd neutral named
    · simp only [List.contains_iff_mem, neutral, if_false, Except.ok.injEq]
      constructor
      · rintro rfl
        exact ⟨nonempty, rfl, neutral⟩
      · rintro ⟨-, rfl, -⟩
        rfl

theorem isName_of_primary {s name : String} (h : primary s = .ok name) : IsName name := by
  obtain ⟨nonempty, rfl, named⟩ := primary_eq_ok_iff.1 h
  refine ⟨?small, ?some_letter, ?short, not_mem_neutralNames.1 named⟩
  case small =>
    intro c hc
    rw [String.toList_ofList] at hc
    obtain ⟨letter, found, rfl⟩ := List.mem_map.1 hc
    rw [Text.isLower_toLower]
    exact isAlpha_of_mem_letters found
  case some_letter =>
    rw [String.length_ofList, List.length_map]
    exact List.length_pos_iff.2 nonempty
  case short =>
    rw [String.length_ofList, List.length_map]
    exact length_letters_le _

theorem IsName.isAlpha {name : String} (h : IsName name) : ∀ c ∈ name.toList, c.isAlpha := by
  intro c hc
  exact Bool.or_eq_true_iff.2 (.inr (h.small c hc))

theorem IsName.ne_nil {name : String} (h : IsName name) : name.toList ≠ [] := by
  apply List.ne_nil_of_length_pos
  rw [String.length_toList]
  exact h.some_letter

theorem IsName.lower_eq {name : String} (h : IsName name) : Text.lower name = name := by
  have kept : ∀ c ∈ name.toList, c.toLower = id c := fun c hc => Text.toLower_of_isLower (h.small c hc)
  rw [Text.lower, List.map_congr_left kept, List.map_id, String.ofList_toList]

theorem IsName.primary {name : String} (h : IsName name) : Language.primary name = .ok name := by
  have whole : letters name.toList = name.toList := by
    apply letters_eq_self h.isAlpha
    rw [String.length_toList]
    exact h.short
  have lower : String.ofList (name.toList.map Char.toLower) = name := h.lower_eq
  rw [primary_eq_ok_iff, whole, lower]
  exact ⟨h.ne_nil, rfl, not_mem_neutralNames.2 h.named⟩

end Language

theorem isName_defaultLanguage : Language.IsName defaultLanguage where
  small := by simp [defaultLanguage]
  some_letter := by decide
  short := by decide
  named := by decide

theorem isName_languageOf (raw : Option String) : Language.IsName (languageOf raw) := by
  rw [languageOf]
  split
  · next name found =>
    obtain ⟨text, -, named⟩ := Option.map_eq_some_iff.1 found
    exact Language.isName_of_primary named
  · exact isName_defaultLanguage

theorem languageOf_of_isName {name : String} (h : Language.IsName name) : languageOf (some name) = name := by
  rw [languageOf, Option.map_some, h.primary]

namespace RolloutKey

def IsNormal : RolloutKey → Prop
  | .identity _ => True
  | .bucket n => n ≤ 99

def identity? : RolloutKey → Option String
  | .identity name => some name
  | .bucket _ => none

def bucket? : RolloutKey → Option Nat
  | .identity _ => none
  | .bucket n => some n

end RolloutKey

theorem rolloutKey_isNormal (o : Overrides) (draw : Nat) : (rolloutKey o draw).IsNormal := by
  rw [rolloutKey]
  split
  case h_1 n _ => exact Nat.min_le_right n 99
  case h_2 => trivial
  case h_3 => exact Nat.le_of_lt_succ (Nat.mod_lt draw (by decide))

def Context.overrides (c : Context) : Overrides where
  os := some c.os
  lang := some c.lang
  now := some c.now
  identity := c.rollout.identity?
  bucket := c.rollout.bucket?

structure Context.IsNormal (c : Context) : Prop where
  lang : Language.IsName c.lang
  rollout : c.rollout.IsNormal

theorem isNormal_detect (o : Overrides) (env : Environment) (draw : Nat) : (detect o env draw).IsNormal where
  lang := isName_languageOf _
  rollout := rolloutKey_isNormal o draw

theorem rolloutKey_overrides {c : Context} (h : c.rollout.IsNormal) (draw : Nat) :
    rolloutKey c.overrides draw = c.rollout := by
  obtain ⟨os, lang, now, key⟩ := c
  cases key with
  | identity name => rfl
  | bucket n => exact congrArg RolloutKey.bucket (Nat.min_eq_left h)

theorem Context.IsNormal.detect_overrides {c : Context} (h : c.IsNormal) (env : Environment) (draw : Nat) :
    detect c.overrides env draw = c := by
  have lang : languageOf (c.overrides.lang.or env.language) = c.lang := languageOf_of_isName h.lang
  have rollout : rolloutKey c.overrides draw = c.rollout := rolloutKey_overrides h.rollout draw
  rw [detect, lang, rollout]
  rfl

theorem Context.isNormal_iff {c : Context} : c.IsNormal ↔ ∃ o env draw, detect o env draw = c := by
  constructor
  · intro h
    exact ⟨c.overrides, { now := c.now }, 0, h.detect_overrides _ _⟩
  · rintro ⟨o, env, draw, rfl⟩
    exact isNormal_detect o env draw

/-- Whatever was stated, said or drawn, the context is normal, and stating it detects it again in every environment. -/
theorem detected_replays (o : Overrides) (env : Environment) (draw : Nat) :
    (detect o env draw).IsNormal ∧ ∀ env' draw', detect (detect o env draw).overrides env' draw' = detect o env draw := by
  have normal := isNormal_detect o env draw
  exact ⟨normal, normal.detect_overrides⟩

end DeepLink
