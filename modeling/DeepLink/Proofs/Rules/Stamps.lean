import DeepLink.Proofs.Json.Record
import DeepLink.Proofs.Time.Stamp
import DeepLink.Rules.Document
import DeepLink.Rules.Issue

namespace DeepLink

def Instant.stamps (path : Path) (t : Option Instant) : List (Path × Instant) := t.toList.map (path, ·)

def DateRange.stamps (path : Path) (r : DateRange) : List (Path × Instant) :=
  Instant.stamps (path ++ [.key "start"]) r.start ++ Instant.stamps (path ++ [.key "end"]) r.finish

def Condition.stamps (path : Path) (c : Condition) : List (Path × Instant) :=
  c.dateRange.elim [] (DateRange.stamps (path ++ [.key "dateRange"]))

def Rule.stamps (path : Path) (r : Rule) : List (Path × Instant) :=
  r.condition.elim [] (Condition.stamps (path ++ [.key "if"]))

def Meta.stamps (path : Path) (m : Meta) : List (Path × Instant) :=
  Instant.stamps (path ++ [.key "generatedAt"]) m.generatedAt

def Document.stamps (d : Document) : List (Path × Instant) :=
  (d.rules.mapIdx fun i r => r.stamps [.key "rules", .index i]).flatten ++ d.info.elim [] (Meta.stamps [.key "meta"])

def Rule.percentage? (r : Rule) : Option Binary64 := (r.condition.bind Condition.rollout).map Rollout.percentage

def Document.percentages (d : Document) : List Binary64 := d.rules.filterMap Rule.percentage?

theorem Rule.mem_percentage? {r : Rule} {c : Condition} {o : Rollout} (hc : c ∈ r.condition) (ho : o ∈ c.rollout) :
    o.percentage ∈ r.percentage? := by
  rw [Option.mem_def] at hc ho ⊢
  rw [percentage?, hc, Option.bind_some, ho, Option.map_some]

theorem Document.mem_percentages {d : Document} {r : Rule} {p : Binary64} (hr : r ∈ d.rules)
    (hp : p ∈ r.percentage?) : p ∈ d.percentages := List.mem_filterMap.2 ⟨r, hr, hp⟩

theorem Rollout.toJson_seed {percentage : Binary64} (h : percentage.isFinite) (seed : String) :
    toJson ⟨percentage, some seed⟩ =
      .record [("percentage", some (.number (.real percentage))), ("seed", some (.string seed))] := by
  rw [toJson, Json.ofBinary_finite h]
  rfl

def Dated (stamps : List (Path × Instant)) : Prop := ∀ s ∈ stamps, s.2.FourDigits

instance (stamps : List (Path × Instant)) : Decidable (Dated stamps) :=
  inferInstanceAs (Decidable (∀ s ∈ stamps, s.2.FourDigits))

def undated (stamps : List (Path × Instant)) : List Issue :=
  (stamps.filter fun s => ¬s.2.FourDigits).map fun s => ⟨s.1, .badStamp s.2.text⟩

theorem undated_append (s t : List (Path × Instant)) : undated (s ++ t) = undated s ++ undated t := by
  rw [undated, List.filter_append, List.map_append, ← undated, ← undated]

theorem undated_flatten (ss : List (List (Path × Instant))) : undated ss.flatten = (ss.map undated).flatten := by
  induction ss with
  | nil => rfl
  | cons s ss ih => rw [List.flatten_cons, undated_append, ih, List.map_cons, List.flatten_cons]

theorem undated_eq_nil {stamps : List (Path × Instant)} : undated stamps = [] ↔ Dated stamps := by
  simp [undated, Dated, List.filter_eq_nil_iff]

end DeepLink
