import DeepLink.Proofs.Rules.Decoding
import DeepLink.Proofs.Rules.Shares
import DeepLink.Proofs.Rules.Text
import DeepLink.Settings

namespace DeepLink

theorem Mode.ofJson?_toJson {f : Json → Json} (hf : Json.Arranges f) (m : Mode) : ofJson? (f m.toJson) = some m := by
  rw [toJson, hf.string, ofJson?, Json.name?, Option.bind_some]
  cases m <;> decide

theorem Json.word?_natural {n : Nat} (word : n < 2 ^ 64) : (number (.integer n)).word? = some n := by
  have inside : 0 ≤ (n : Int) ∧ (n : Int) < 0x10000000000000000 := by omega
  simp only [word?, inside, and_self, if_true, Int.toNat_natCast]

theorem Json.word?_lt {v : Json} {n : Nat} (h : v.word? = some n) : n < 2 ^ 64 := by
  unfold word? at h
  split at h
  · split at h
    · cases h
      omega
    · cases h
  · cases h

namespace Settings

theorem word_of_ofJson? {j : Json} {s : Settings} (h : ofJson? j = some s) : s.timeout < 2 ^ 64 := by
  obtain ⟨found, -, h⟩ := Option.bind_eq_some_iff.1 h
  split at h
  · next timeout preferWeb mode rulesDir =>
    obtain ⟨n, hn, h⟩ := Option.bind_eq_some_iff.1 h
    have word : n < 2 ^ 64 := by
      cases timeout with
      | none =>
        cases hn
        decide
      | some v => exact Json.word?_lt hn
    obtain ⟨_, -, h⟩ := Option.bind_eq_some_iff.1 h
    obtain ⟨_, -, h⟩ := Option.bind_eq_some_iff.1 h
    obtain ⟨_, -, h⟩ := Option.bind_eq_some_iff.1 h
    cases h
    exact word
  · cases h

theorem ofJson?_of_slots {j : Json} {s : Settings} {timeout preferWeb mode rulesDir : Option Json}
    (slots : j.slots form = some [timeout, preferWeb, mode, rulesDir])
    (waits : Json.withDefault 1200 Json.word? timeout = some s.timeout)
    (prefers : Json.withDefault true Json.bool? preferWeb = some s.preferWeb)
    (navigates : Json.withDefault .assign Mode.ofJson? mode = some s.mode)
    (loads : Json.optional Json.string? rulesDir = some s.rulesDir) : ofJson? j = some s := by
  simp only [ofJson?, slots, waits, prefers, navigates, loads, Option.bind_eq_bind, Option.bind_some, Option.pure_def]

theorem ofJson?_toJson {f : Json → Json} (hf : Json.Arranges f) {s : Settings} (word : s.timeout < 2 ^ 64) :
    ofJson? (f s.toJson) = some s := by
  have slots : (f s.toJson).slots form =
      some [some (.number (.integer s.timeout)), some (.bool s.preferWeb), some (f s.mode.toJson),
        (s.rulesDir.map Json.string).map f] := by
    rw [toJson, form, hf.slots_record (by simp) (by simp)]
    simp [Json.fieldOf, hf.number, hf.bool]
  apply ofJson?_of_slots slots
  · rw [Json.withDefault, Json.word?_natural word]
  · rfl
  · rw [Json.withDefault, Mode.ofJson?_toJson hf]
  · exact Json.optional_string hf s.rulesDir

theorem fits {s : Settings} (word : s.timeout < 2 ^ 64) (n : Nat) : Json.Fits (n + 1) form s.toJson := by
  refine Json.fits_record fun f hf => ?_
  simp only [List.mem_cons, List.not_mem_nil, or_false] at hf
  rcases hf with rfl | rfl | rfl | rfl
  · rintro v ⟨⟩
    exact ⟨.whole, rfl, Json.fits_number.2 (Json.Number.readsBack_natural word)⟩
  · rintro v ⟨⟩
    refine ⟨.whole, rfl, ?_⟩
    cases n <;> trivial
  · rintro v ⟨⟩
    exact ⟨.whole, rfl, Json.fits_string n _ s.mode.name⟩
  · exact Json.fits_text rfl s.rulesDir

end Settings

inductive Wire where
  | target | condition | dateRange | rollout | rule | defaultRule | info | document | settings
deriving DecidableEq, Repr

namespace Wire

abbrev Value : Wire → Type
  | target => Target
  | condition => Condition
  | dateRange => DateRange
  | rollout => Rollout
  | rule => Rule
  | defaultRule => DefaultRule
  | info => Meta
  | document => Document
  | settings => Settings

def form : Wire → Json.Form
  | target => Target.form
  | condition => Condition.form
  | dateRange => DateRange.form
  | rollout => .whole
  | rule => Rule.form
  | defaultRule => DefaultRule.form
  | info => Meta.form
  | document => Document.form
  | settings => Settings.form

def ofJson? : (w : Wire) → Json → Option w.Value
  | target => Target.ofJson?
  | condition => Condition.ofJson?
  | dateRange => DateRange.ofJson?
  | rollout => Rollout.ofJson?
  | rule => Rule.ofJson?
  | defaultRule => DefaultRule.ofJson?
  | info => Meta.ofJson?
  | document => Document.ofJson?
  | settings => Settings.ofJson?

def toJson : (w : Wire) → w.Value → Json
  | target => Target.toJson
  | condition => Condition.toJson
  | dateRange => DateRange.toJson
  | rollout => Rollout.toJson
  | rule => Rule.toJson
  | defaultRule => DefaultRule.toJson
  | info => Meta.toJson
  | document => Document.toJson
  | settings => Settings.toJson

def decode? (w : Wire) (text : String) : Option w.Value := Json.decode? w.form w.ofJson? text

def text (w : Wire) (x : w.Value) : String := (w.toJson x).render

def percentages : (w : Wire) → w.Value → List Binary64
  | condition, c => (c.rollout.map Rollout.percentage).toList
  | rollout, r => [r.percentage]
  | rule, r => r.percentage?.toList
  | document, d => d.percentages
  | _, _ => []

theorem isFinite_of_ofJson? {w : Wire} {j : Json} {x : w.Value} (h : w.ofJson? j = some x) (range : j.InRange) :
    ∀ p ∈ w.percentages x, p.isFinite := by
  intro p hp
  cases w with
  | condition =>
    obtain ⟨r, hr, rfl⟩ := Option.map_eq_some_iff.1 (Option.mem_toList.1 hp)
    exact Condition.isFinite_of_ofJson? h range r hr
  | rollout =>
    rw [List.mem_singleton.1 hp]
    exact Rollout.isFinite_of_ofJson? h range
  | rule => exact Rule.isFinite_of_ofJson? h range p (Option.mem_toList.1 hp)
  | document => exact Document.isFinite_of_ofJson? h range p hp
  | _ => exact absurd hp List.not_mem_nil

theorem ofJson?_toJson {w : Wire} {j : Json} {x : w.Value} (h : w.ofJson? j = some x)
    (finite : ∀ p ∈ w.percentages x, p.isFinite) {f : Json → Json} (hf : Json.Arranges f) :
    w.ofJson? (f (w.toJson x)) = some x := by
  cases w with
  | target => exact Target.ofJson?_toJson hf x
  | condition =>
    apply Condition.ofJson?_toJson hf
    intro r hr
    exact finite r.percentage (Option.mem_toList.2 (Option.mem_map_of_mem _ hr))
  | dateRange => exact DateRange.ofJson?_toJson hf x
  | rollout => exact Rollout.ofJson?_toJson hf (finite _ List.mem_cons_self)
  | rule => exact Rule.ofJson?_toJson hf fun p hp => finite p (Option.mem_toList.2 hp)
  | defaultRule => exact DefaultRule.ofJson?_toJson hf x
  | info => exact Meta.ofJson?_toJson hf x
  | document => exact Document.ofJson?_toJson hf finite
  | settings => exact Settings.ofJson?_toJson hf (Settings.word_of_ofJson? h)

theorem fits {w : Wire} {j : Json} {x : w.Value} (h : w.ofJson? j = some x)
    (numbers : ∀ p ∈ w.percentages x, (Json.Number.real p).ReadsBack) :
    Json.Fits Json.Reader.depthLimit w.form (w.toJson x) := by
  cases w with
  | target => exact Target.fits x 126
  | condition =>
    refine Condition.fits (fun r hr => ?_) 125
    exact numbers r.percentage (Option.mem_toList.2 (Option.mem_map_of_mem _ hr))
  | dateRange => exact DateRange.fits x 126
  | rollout => exact Rollout.fits (numbers _ List.mem_cons_self) 126
  | rule => exact Rule.fits (fun p hp => numbers p (Option.mem_toList.2 hp)) 124
  | defaultRule => exact DefaultRule.fits x 125
  | info => exact Meta.fits x 126
  | document => exact Document.fits numbers 122
  | settings => exact Settings.fits (Settings.word_of_ofJson? h) 126

/-- What is decoded from a text is decoded again from its own text, if its percentages can be read back. As a value it
is decoded again whatever their texts are, for a decoded percentage is a finite number. -/
theorem decoded_again {w : Wire} {text : String} {x : w.Value} (h : w.decode? text = some x) :
    (∀ p ∈ w.percentages x, p.isFinite) ∧
      w.ofJson? (w.toJson x) = some x ∧
      ((∀ p ∈ w.percentages x, p.isFinite → (Json.Number.real p).ReadsBack) → w.decode? (w.text x) = some x) := by
  obtain ⟨j, parsed, decoded⟩ := Json.decode?_eq_some_iff.1 h
  have finite := isFinite_of_ofJson? decoded (Json.parseAs_inRange parsed)
  have back := ofJson?_toJson decoded finite Json.arranges_id
  refine ⟨finite, back, fun numbers => ?_⟩
  have fits := fits decoded fun p hp => numbers p hp (finite p hp)
  exact Json.decode?_eq_some_iff.2 ⟨w.toJson x, Json.parseAs_render fits, back⟩

def respelled : Json :=
  .object
    [("note", .array [.object []]), ("target", .object [("deepLinkIOS", .string "app:a"), ("web", .null)]),
      ("if", .object
        [("rollout", .object [("seed", .null), ("percentage", .number (.integer 25))]),
          ("dateRange", .array [.string " -1 -1-2t3:4:60.5 z"])])]

def plain : Rule where
  condition := some
    { dateRange := some { start := some ⟨-62198657701, 1500000000, by decide, by decide⟩ }
      rollout := some { percentage := .ofNat 25 } }
  target := { ios := some "app:a" }

theorem decoded_again_respelled :
    rule.decode? respelled.render = some plain ∧ rule.decode? (rule.text plain) = some plain := by
  have accepted : rule.decode? respelled.render = some plain := by
    show Json.decode? Rule.form Rule.ofJson? respelled.render = some plain
    decide +kernel
  have number : (Json.Number.real (.ofNat 25)).ReadsBack := by decide +kernel
  refine ⟨accepted, (decoded_again accepted).2.2 fun p hp _ => ?_⟩
  rw [List.mem_singleton.1 hp]
  exact number

end Wire

end DeepLink
