import DeepLink.Proofs.Rules.Decoding
import DeepLink.Proofs.Rules.Form
import DeepLink.Proofs.Rules.Text
import DeepLink.Proofs.Rules.Violations

namespace DeepLink

namespace Document

theorem finite_of_issues {d : Document} (h : d.issues = []) : ∀ p ∈ d.percentages, p.isFinite := by
  intro p hp
  obtain ⟨r, hr, share⟩ := List.mem_filterMap.1 hp
  obtain ⟨o, ho, rfl⟩ := Option.map_eq_some_iff.1 share
  obtain ⟨c, hc, rolled⟩ := Option.bind_eq_some_iff.1 ho
  obtain ⟨-, conditions⟩ := (issues_eq_nil_iff.1 h).rules r hr
  obtain ⟨v, number, -⟩ := (conditions c hc).rollout o rolled
  rw [Binary64.isFinite, number]
  rfl

theorem issues_of_ofJson {raw : Json} {d : Document} (h : ofJson raw = .ok d) : d.issues = [] := by
  unfold ofJson at h
  simp only at h
  split at h
  · split at h
    · obtain ⟨rfl, none⟩ := check_eq_ok h
      exact none
    · simp at h
  · simp at h

theorem issues_of_ofText {text : String} {d : Document} (h : ofText text = .ok d) : d.issues = [] := by
  unfold ofText at h
  split at h
  · exact issues_of_ofJson h
  · simp at h

theorem ofJson_dated {d : Document} (finite : ∀ p ∈ d.percentages, p.isFinite) (dated : Dated d.stamps) :
    ofJson d.toJson = d.check := by
  have form : Shape.document d.toJson.canonical = [] := by
    rw [Shape.document_toJson finite, undated_eq_nil.2 dated]
  simp only [ofJson, form, ofJson?_toJson Json.arranges_canonical finite]

theorem ofJson_undated {d : Document} (finite : ∀ p ∈ d.percentages, p.isFinite) (h : ¬Dated d.stamps) :
    ofJson d.toJson = .error (.issues (undated d.stamps)) := by
  have form := Shape.document_toJson finite
  unfold ofJson
  dsimp only
  rw [form]
  split
  · next none => exact (h (undated_eq_nil.1 none)).elim
  · rfl

theorem ofText_text {d : Document} (numbers : ∀ p ∈ d.percentages, (Json.Number.real p).ReadsBack) :
    ofText d.text = ofJson d.toJson := by
  rw [ofText, parse_text numbers]

theorem written_read {d : Document} (finite : ∀ p ∈ d.percentages, p.isFinite) :
    (Dated d.stamps → ofJson d.toJson = d.check) ∧
      (¬Dated d.stamps → ofJson d.toJson = .error (.issues (undated d.stamps))) ∧
      ((∀ p ∈ d.percentages, (Json.Number.real p).ReadsBack) → ofText d.text = ofJson d.toJson) := by
  refine ⟨?_, ?_, ?_⟩
  · intro dated
    exact ofJson_dated finite dated
  · intro undated_year
    exact ofJson_undated finite undated_year
  · intro numbers
    exact ofText_text numbers

def launch : Document where
  rules := [{
    condition := some {
      os := some [.iOS]
      lang := some ["fr-CA"]
      dateRange := some { start := some ⟨1735689600, 0, by decide, by decide⟩ }
      rollout := some { percentage := .ofRatio false 25 2, seed := some "launch" } }
    target := { ios := some "app://launch", web := some "app://web" } }]
  info := some { generatedAt := some ⟨1735689599, 1500000000, by decide, by decide⟩ }

theorem written_read_launch : (∀ p ∈ launch.percentages, p.isFinite) ∧ ofText launch.text = .ok launch := by
  have finite : ∀ p ∈ launch.percentages, p.isFinite := by decide +kernel
  have numbers : ∀ p ∈ launch.percentages, (Json.Number.real p).ReadsBack := by decide +kernel
  have dated : Dated launch.stamps := by decide +kernel
  have silent : launch.check = .ok launch := by decide +kernel
  obtain ⟨as_value, -, as_text⟩ := written_read finite
  exact ⟨finite, by rw [as_text numbers, as_value dated, silent]⟩

/-- A document that was read comes back from its text as long as its years have four digits. -/
theorem accepted_reread {text : String} {d : Document} (h : ofText text = .ok d)
    (numbers : ∀ p ∈ d.percentages, (Json.Number.real p).ReadsBack) :
    (ofText d.text = .ok d ↔ Dated d.stamps) ∧
      (¬Dated d.stamps → ofText d.text = .error (.issues (undated d.stamps))) := by
  -- What was accepted passed the check, so its percentages are finite.
  have silent := issues_of_ofText h
  have finite := finite_of_issues silent
  have rejected (undated_year : ¬Dated d.stamps) : ofText d.text = .error (.issues (undated d.stamps)) := by
    rw [ofText_text numbers, ofJson_undated finite undated_year]
  refine ⟨⟨fun back => ?_, fun dated => ?_⟩, rejected⟩
  · by_contra undated_year
    rw [rejected undated_year] at back
    cases back
  · rw [ofText_text numbers, ofJson_dated finite dated, check, silent]
    rfl

def offered : Json :=
  .object
    [("rules", .array [.object
      [("target", .object [("deepLinkIOS", .string "app://launch"), ("web", .string "app://web")]),
        ("if", .object
          [("os", .array [.string "iOS"]), ("lang", .array [.string "fr-CA"]),
            ("dateRange", .object [("start", .string "2025-01-01T01:00:00+01:00")]),
            ("rollout", .object
              [("seed", .string "launch"), ("percentage", .number (.real (.ofRatio false 25 2)))])])]]),
      ("meta", .object [("generatedAt", .string "2024-12-31T18:59:60.5-05:00")])]

theorem accepted_reread_launch : ofText offered.render = .ok launch ∧ ofText launch.text = .ok launch := by
  have legible : Json.Legible Json.Reader.depthLimit offered := by
    simp [offered, Json.Legible, Json.Reader.depthLimit]
    decide +kernel
  have accepted : ofText offered.render = .ok launch := by
    rw [ofText, Json.parse_render legible]
    decide +kernel
  have numbers : ∀ p ∈ launch.percentages, (Json.Number.real p).ReadsBack := by decide +kernel
  exact ⟨accepted, (accepted_reread accepted numbers).1.2 (by decide +kernel)⟩

def newYear : Json :=
  .object [("rules", .array [.object
    [("if", .object [("dateRange", .object [("start", .string "0000-01-01T00:00:00+01:00")])]),
      ("target", .object [("web", .string "app://a")])]])]

def lastYear : Document where
  rules := [{
    condition := some { dateRange := some { start := some ⟨-62167222800, 0, by decide, by decide⟩ } }
    target := { web := some "app://a" } }]

theorem accepted_lost_at_new_year :
    ofText newYear.render = .ok lastYear ∧
      (∀ p ∈ lastYear.percentages, (Json.Number.real p).ReadsBack) ∧ ofText lastYear.text ≠ .ok lastYear := by
  have legible : Json.Legible Json.Reader.depthLimit newYear := by
    simp [newYear, Json.Legible, Json.Reader.depthLimit]
  have accepted : ofText newYear.render = .ok lastYear := by
    rw [ofText, Json.parse_render legible]
    decide +kernel
  have numbers : ∀ p ∈ lastYear.percentages, (Json.Number.real p).ReadsBack := by decide +kernel
  refine ⟨accepted, numbers, ?_⟩
  rw [ofText_text numbers, ofJson_undated (by decide +kernel) (by decide +kernel)]
  exact nofun

end Document

end DeepLink
