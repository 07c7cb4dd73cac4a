import DeepLink.Proofs.Routing.FirstMatch
import DeepLink.Proofs.Visitor.Replay

namespace DeepLink

namespace Language

structure IsTag (tag : String) : Prop where
  letters : ∀ c ∈ tag.toList, c.isAlpha
  some_letter : 1 ≤ tag.length
  short : tag.length ≤ 8
  named : Text.lower tag ≠ "c" ∧ Text.lower tag ≠ "posix"

theorem length_lower (s : String) : (Text.lower s).length = s.length := by
  rw [← String.length_toList, Text.lower_toList, List.length_map, String.length_toList]

theorem isTag_iff {tag : String} : IsTag tag ↔ IsName (Text.lower tag) := by
  have small : (∀ c ∈ (Text.lower tag).toList, c.isLower) ↔ ∀ c ∈ tag.toList, c.isAlpha := by
    simp only [Text.lower_toList, List.forall_mem_map, Text.isLower_toLower]
  constructor
  · intro h
    exact ⟨small.2 h.letters, (length_lower tag).symm ▸ h.some_letter, (length_lower tag).symm ▸ h.short, h.named⟩
  · intro h
    exact ⟨small.1 h.small, length_lower tag ▸ h.some_letter, length_lower tag ▸ h.short, h.named⟩

end Language

namespace Condition

theorem isTag_of_met {c : Condition} {tags : List String} (asked : c.lang = some tags) {o : Overrides}
    {env : Environment} {draw : Nat} (met : c.rejection (detect o env draw) = none) :
    ∃ tag ∈ tags, Language.IsTag tag := by
  have normal := isNormal_detect o env draw
  obtain ⟨tag, member, same⟩ := (c.rejection_eq_none_iff _).1 met .lang tags asked
  refine ⟨tag, member, Language.isTag_iff.2 ?_⟩
  rw [same, normal.lang.lower_eq]
  exact normal.lang

theorem rejection_lang (tags : List String) (ctx : Context) : rejection { lang := some tags } ctx =
    if ∃ tag ∈ tags, Text.lower tag = Text.lower ctx.lang then none else some .lang := by
  by_cases met : ∃ tag ∈ tags, Text.lower tag = Text.lower ctx.lang <;> simp_all [rejection]

/-- Some visitor speaks one of the languages exactly if one of the tags can be a language. A condition that asks for
more is met by no other visitors, and tags that all have more in them than letters turn every visitor away. -/
theorem lang_met_iff (tags : List String) :
    ((∃ o env draw, rejection { lang := some tags } (detect o env draw) = none) ↔ ∃ tag ∈ tags, Language.IsTag tag) ∧
      (∀ c : Condition, c.lang = some tags → (∃ o env draw, c.rejection (detect o env draw) = none) →
        ∃ tag ∈ tags, Language.IsTag tag) ∧
      ((∀ tag ∈ tags, ∃ c ∈ tag.toList, c.isAlpha = false) →
        ∀ o env draw, rejection { lang := some tags } (detect o env draw) = some .lang) := by
  refine ⟨⟨?needed, ?enough⟩, ?wider, ?regional⟩
  case needed =>
    rintro ⟨o, env, draw, met⟩
    exact isTag_of_met rfl met
  case enough =>
    rintro ⟨tag, member, h⟩
    have normal : Context.IsNormal ⟨.iOS, Text.lower tag, ⟨0, 0, by decide, by decide⟩, .bucket 0⟩ :=
      ⟨Language.isTag_iff.1 h, Nat.zero_le 99⟩
    obtain ⟨o, env, draw, found⟩ := Context.isNormal_iff.1 normal
    refine ⟨o, env, draw, ?_⟩
    rw [found, rejection_lang, if_pos]
    exact ⟨tag, member, (Language.isTag_iff.1 h).lower_eq.symm⟩
  case wider =>
    rintro c asked ⟨o, env, draw, met⟩
    exact isTag_of_met asked met
  case regional =>
    intro regional o env draw
    have met_only := rejection_lang tags (detect o env draw)
    rw [met_only, if_neg]
    intro met
    rw [if_pos met] at met_only
    obtain ⟨tag, member, h⟩ := isTag_of_met rfl met_only
    obtain ⟨c, hc, other⟩ := regional tag member
    rw [h.letters c hc] at other
    cases other

end Condition

end DeepLink
