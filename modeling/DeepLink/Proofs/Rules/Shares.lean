import DeepLink.Json.Record
import DeepLink.Proofs.Json.Range
import DeepLink.Proofs.Rules.Stamps

namespace DeepLink

namespace Json

theorem mem_of_mapM {α β : Type} {f : α → Option β} {xs : List α} {ys : List β} (h : xs.mapM f = some ys) {y : β}
    (hy : y ∈ ys) : ∃ x ∈ xs, f x = some y := by
  induction xs generalizing ys with
  | nil =>
    cases h
    cases hy
  | cons x xs ih =>
    rw [List.mapM_cons] at h
    obtain ⟨z, hz, h⟩ := Option.bind_eq_some_iff.1 h
    obtain ⟨zs, hzs, h⟩ := Option.bind_eq_some_iff.1 h
    cases h
    rcases List.mem_cons.1 hy with rfl | hy
    · exact ⟨x, List.mem_cons_self, hz⟩
    · obtain ⟨w, hw, found⟩ := ih hzs hy
      exact ⟨w, List.mem_cons_of_mem x hw, found⟩

theorem mem_of_unique {names : List String} {members : List (String × Json)} {v : Json}
    (h : unique names members = some (some v)) : ∃ m ∈ members, m.2 = v := by
  unfold unique at h
  split at h
  · cases h
  · next m only =>
    cases h
    have member : m ∈ members.filter fun m => m.1 ∈ names := by
      rw [only]
      exact List.mem_singleton_self m
    exact ⟨m, List.mem_of_mem_filter member, rfl⟩
  · cases h

theorem InRange.slots {form : Form} {j : Json} (range : j.InRange) {found : List (Option Json)}
    (h : j.slots form = some found) {o : Option Json} (ho : o ∈ found) {v : Json} (hv : v ∈ o) : v.InRange := by
  unfold Json.slots at h
  split at h
  · cases range with
    | object each =>
      obtain ⟨f, -, unique⟩ := mem_of_mapM h ho
      rw [Option.mem_def.1 hv] at unique
      obtain ⟨m, hm, rfl⟩ := mem_of_unique unique
      exact each m hm
  · cases range with
    | array each =>
      split at h
      · cases h
        rcases List.mem_append.1 ho with ho | ho
        · obtain ⟨w, hw, rfl⟩ := List.mem_map.1 ho
          cases hv
          exact each _ hw
        · rw [List.eq_of_mem_replicate ho] at hv
          cases hv
      · cases h
  · cases h

variable {α : Type} {read : Json → Option α}

theorem optional_eq_some {o : Option Json} {x : α} (h : optional read o = some (some x)) :
    ∃ v ∈ o, read v = some x := by
  unfold optional at h
  split at h
  · cases h
  · cases h
  · next v _ =>
    obtain ⟨y, hy, same⟩ := Option.map_eq_some_iff.1 h
    cases same
    exact ⟨v, rfl, hy⟩

theorem InRange.list? {j : Json} (range : j.InRange) {xs : List α} (h : list? read j = some xs) {x : α} (hx : x ∈ xs) :
    ∃ v, v.InRange ∧ read v = some x := by
  unfold Json.list? at h
  split at h
  · cases range with
    | array each =>
      obtain ⟨v, hv, found⟩ := mem_of_mapM h hx
      exact ⟨v, each v hv, found⟩
  · cases h

end Json

theorem Rollout.isFinite_of_ofJson? {j : Json} {r : Rollout} (h : ofJson? j = some r) (range : j.InRange) :
    r.percentage.isFinite := by
  unfold ofJson? at h
  split at h
  · cases h
    exact range.isFinite
  · obtain ⟨found, slots, h⟩ := Option.bind_eq_some_iff.1 h
    split at h
    · next percentage seed =>
      obtain ⟨n, hn, h⟩ := Option.bind_eq_some_iff.1 h
      obtain ⟨s, -, h⟩ := Option.bind_eq_some_iff.1 h
      cases h
      cases percentage with
      | none => cases hn
      | some v =>
        cases v with
        | number m =>
          cases hn
          exact (range.slots slots List.mem_cons_self rfl).isFinite
        | _ => cases hn
    · cases h
  · cases h

theorem Condition.isFinite_of_ofJson? {j : Json} {c : Condition} (h : ofJson? j = some c) (range : j.InRange) :
    ∀ r ∈ c.rollout, r.percentage.isFinite := by
  intro r hr
  obtain ⟨found, slots, h⟩ := Option.bind_eq_some_iff.1 h
  split at h
  · next os lang dateRange rollout =>
    obtain ⟨_, -, h⟩ := Option.bind_eq_some_iff.1 h
    obtain ⟨_, -, h⟩ := Option.bind_eq_some_iff.1 h
    obtain ⟨_, -, h⟩ := Option.bind_eq_some_iff.1 h
    obtain ⟨o, ho, h⟩ := Option.bind_eq_some_iff.1 h
    cases h
    cases hr
    obtain ⟨v, hv, read⟩ := Json.optional_eq_some ho
    exact Rollout.isFinite_of_ofJson? read (range.slots slots (by simp) hv)
  · cases h

theorem Rule.isFinite_of_ofJson? {j : Json} {r : Rule} (h : ofJson? j = some r) (range : j.InRange) :
    ∀ p ∈ r.percentage?, p.isFinite := by
  intro p hp
  obtain ⟨o, ho, rfl⟩ := Option.map_eq_some_iff.1 hp
  obtain ⟨c, hc, rolled⟩ := Option.bind_eq_some_iff.1 ho
  obtain ⟨found, slots, h⟩ := Option.bind_eq_some_iff.1 h
  split at h
  · next condition target reason =>
    obtain ⟨d, hd, h⟩ := Option.bind_eq_some_iff.1 h
    obtain ⟨_, -, h⟩ := Option.bind_eq_some_iff.1 h
    obtain ⟨_, -, h⟩ := Option.bind_eq_some_iff.1 h
    cases h
    cases hc
    obtain ⟨v, hv, read⟩ := Json.optional_eq_some hd
    exact Condition.isFinite_of_ofJson? read (range.slots slots (by simp) hv) o rolled
  · cases h

theorem Document.isFinite_of_ofJson? {j : Json} {d : Document} (h : ofJson? j = some d) (range : j.InRange) :
    ∀ p ∈ d.percentages, p.isFinite := by
  intro p hp
  obtain ⟨r, hr, share⟩ := List.mem_filterMap.1 hp
  obtain ⟨found, slots, h⟩ := Option.bind_eq_some_iff.1 h
  split at h
  · next rules fallback info =>
    obtain ⟨rs, hrs, h⟩ := Option.bind_eq_some_iff.1 h
    obtain ⟨_, -, h⟩ := Option.bind_eq_some_iff.1 h
    obtain ⟨_, -, h⟩ := Option.bind_eq_some_iff.1 h
    cases h
    cases rules with
    | none =>
      cases hrs
      cases hr
    | some v =>
      obtain ⟨w, inside, read⟩ := (range.slots slots List.mem_cons_self rfl).list? hrs hr
      exact Rule.isFinite_of_ofJson? read inside p share
  · cases h

end DeepLink
