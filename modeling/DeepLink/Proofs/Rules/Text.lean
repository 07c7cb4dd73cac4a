import DeepLink.Proofs.Json.Value
import DeepLink.Proofs.Rules.Stamps

namespace DeepLink

namespace Json

variable {n : Nat} {form : Form} {name : String}

theorem fits_text (found : form.member? name = some .whole) (o : Option String) :
    ∀ v ∈ o.map string, ∃ wanted, form.member? name = some wanted ∧ Fits n wanted v :=
  fits_member found fun s _ => fits_string n .whole s

theorem fits_instant (found : form.member? name = some .whole) (o : Option Instant) :
    ∀ v ∈ o.map Instant.toJson, ∃ wanted, form.member? name = some wanted ∧ Fits n wanted v :=
  fits_member found fun t _ => fits_string n .whole t.text

end Json

theorem Rollout.fits {r : Rollout} (h : (Json.Number.real r.percentage).ReadsBack) (n : Nat) :
    Json.Fits (n + 1) .whole r.toJson := by
  have share (k : Nat) (form : Json.Form) : Json.Fits k form (.ofBinary r.percentage) := by
    unfold Json.ofBinary
    split
    · exact Json.fits_number.2 h
    · cases k <;> trivial
  unfold toJson
  split
  · exact share _ _
  · next seed _ =>
    intro m hm
    simp only [List.mem_cons, List.not_mem_nil, or_false] at hm
    rcases hm with rfl | rfl
    · exact ⟨.whole, rfl, share n _⟩
    · exact ⟨.whole, rfl, Json.fits_string n _ seed⟩

theorem DateRange.fits (r : DateRange) (n : Nat) : Json.Fits (n + 1) form r.toJson := by
  refine Json.fits_record fun f hf => ?_
  simp only [List.mem_cons, List.not_mem_nil, or_false] at hf
  rcases hf with rfl | rfl
  · exact Json.fits_instant rfl r.start
  · exact Json.fits_instant rfl r.finish

theorem Target.fits (t : Target) (n : Nat) : Json.Fits (n + 1) form t.toJson := by
  refine Json.fits_record fun f hf => ?_
  simp only [List.mem_cons, List.not_mem_nil, or_false] at hf
  rcases hf with rfl | rfl | rfl | rfl <;> exact Json.fits_text rfl _

theorem Condition.fits {c : Condition} (h : ∀ r ∈ c.rollout, (Json.Number.real r.percentage).ReadsBack) (n : Nat) :
    Json.Fits (n + 2) form c.toJson := by
  refine Json.fits_record fun f hf => ?_
  simp only [List.mem_cons, List.not_mem_nil, or_false] at hf
  rcases hf with rfl | rfl | rfl | rfl
  · apply Json.fits_member rfl
    intro os _
    exact Json.fits_ofList fun o _ _ => Json.fits_string n _ o.name
  · apply Json.fits_member rfl
    intro lang _
    exact Json.fits_ofList fun l _ _ => Json.fits_string n _ l
  · exact Json.fits_member rfl fun r _ => r.fits n
  · exact Json.fits_member rfl fun r hr => Rollout.fits (h r hr) n

theorem Rule.fits {r : Rule} (h : ∀ p ∈ r.percentage?, (Json.Number.real p).ReadsBack) (n : Nat) :
    Json.Fits (n + 3) form r.toJson := by
  refine Json.fits_record fun f hf => ?_
  simp only [List.mem_cons, List.not_mem_nil, or_false] at hf
  rcases hf with rfl | rfl | rfl
  · apply Json.fits_member rfl
    intro c hc
    exact Condition.fits (fun o ho => h o.percentage (mem_percentage? hc ho)) n
  · intro v hv
    cases hv
    exact ⟨Target.form, rfl, r.target.fits (n + 1)⟩
  · exact Json.fits_text rfl r.reason

theorem DefaultRule.fits (r : DefaultRule) (n : Nat) : Json.Fits (n + 2) form r.toJson := by
  refine Json.fits_record fun f hf => ?_
  simp only [List.mem_cons, List.not_mem_nil, or_false] at hf
  rcases hf with rfl | rfl
  · intro v hv
    cases hv
    exact ⟨Target.form, rfl, r.target.fits n⟩
  · exact Json.fits_text rfl r.reason

theorem Meta.fits (m : Meta) (n : Nat) : Json.Fits (n + 1) form m.toJson := by
  refine Json.fits_record fun f hf => ?_
  simp only [List.mem_cons, List.not_mem_nil, or_false] at hf
  rcases hf with rfl | rfl
  · exact Json.fits_text rfl m.version
  · exact Json.fits_instant rfl m.generatedAt

theorem Document.fits {d : Document} (h : ∀ p ∈ d.percentages, (Json.Number.real p).ReadsBack) (n : Nat) :
    Json.Fits (n + 5) form d.toJson := by
  refine Json.fits_record fun f hf => ?_
  simp only [List.mem_cons, List.not_mem_nil, or_false] at hf
  rcases hf with rfl | rfl | rfl
  · intro v hv
    cases hv
    refine ⟨.items Rule.form, rfl, Json.fits_ofList fun r hr _ => ?_⟩
    exact Rule.fits (fun p hp => h p (mem_percentages hr hp)) n
  · exact Json.fits_member rfl fun r _ => r.fits (n + 2)
  · exact Json.fits_member rfl fun m _ => m.fits (n + 3)

theorem Document.parse_text {d : Document} (h : ∀ p ∈ d.percentages, (Json.Number.real p).ReadsBack) :
    Json.parse d.text = .ok d.toJson := Json.parse_render (fits h 122).legible

end DeepLink
