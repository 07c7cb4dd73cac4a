import DeepLink.Proofs.Routing.FirstMatch
import DeepLink.Proofs.Rules.RoundTrip

namespace DeepLink

namespace Target

def Names (t : Target) (url : String) : Prop := ∃ name, (name, url) ∈ t.links

variable {t : Target} {url : String}

theorem names_iff : t.Names url ↔ ∃ f, t.link f = some url := by
  rw [Names, links_eq]
  constructor
  · rintro ⟨name, listed⟩
    obtain ⟨f, -, found⟩ := List.mem_filterMap.1 listed
    obtain ⟨url, present, ⟨⟩⟩ := Option.map_eq_some_iff.1 found
    exact ⟨f, present⟩
  · rintro ⟨f, present⟩
    exact ⟨f.name, List.mem_filterMap.2 ⟨f, f.mem_all, by rw [present]; rfl⟩⟩

theorem Valid.parses (h : t.Valid) (named : t.Names url) : ∃ u, Url.parse url = .ok u := by
  obtain ⟨f, present⟩ := names_iff.1 named
  exact h f url present

theorem names_deepLink {os : Os} (h : t.deepLink os = some url) : t.Names url := by
  cases os with
  | iOS => exact names_iff.2 ⟨.ios, h⟩
  | android => exact names_iff.2 ⟨.android, h⟩
  | desktop => cases h

theorem names_web (h : t.web = some url) : t.Names url := names_iff.2 ⟨.web, h⟩

theorem names_fallbackOrWeb (h : t.fallbackOrWeb = some url) : t.Names url := by
  rcases Option.or_eq_some_iff.1 h with h | ⟨-, h⟩
  · exact names_iff.2 ⟨.fallback, h⟩
  · exact names_web h

end Target

namespace Document

def chosen? (d : Document) : Option Nat → Option Target
  | some i => d.rules[i]?.map (·.target)
  | none => d.default.map (·.target)

theorem chosen_of_evaluate (d : Document) (ctx : Context) :
    d.chosen? (d.evaluate ctx).index = some (d.evaluate ctx).target ∨ (d.evaluate ctx).target = {} := by
  change d.chosen? (firstMatch ctx d.rules) = some (d.decide ctx (firstMatch ctx d.rules)).target ∨
    (d.decide ctx (firstMatch ctx d.rules)).target = {}
  cases hm : firstMatch ctx d.rules with
  | some i =>
    obtain ⟨r, hr, -, -⟩ := (firstMatch_eq_some_iff ctx).1 hm
    rw [(d.decide_rule ctx hr).1, chosen?, hr]
    exact .inl rfl
  | none =>
    cases hd : d.default with
    | some r =>
      rw [(d.decide_default ctx hd).1, chosen?, hd]
      exact .inl rfl
    | none => exact .inr (d.decide_nothing ctx hd).1

theorem Valid.chosen {d : Document} {index : Option Nat} {t : Target} (valid : d.Valid)
    (h : d.chosen? index = some t) : t.Valid := by
  cases index with
  | some i =>
    obtain ⟨r, hr, rfl⟩ := Option.map_eq_some_iff.1 h
    exact (valid.rules r (List.mem_of_getElem? hr)).1
  | none =>
    obtain ⟨r, hr, rfl⟩ := Option.map_eq_some_iff.1 h
    exact valid.default r hr

theorem names_url {d : Document} (valid : d.issues = []) {ctx : Context} {url : String}
    (named : (d.evaluate ctx).target.Names url) :
    ∃ t, d.chosen? (d.evaluate ctx).index = some t ∧ t.Names url ∧ ∃ u, Url.parse url = .ok u := by
  rcases d.chosen_of_evaluate ctx with chosen | nothing
  · have urls := (issues_eq_nil_iff.1 valid).chosen chosen
    exact ⟨_, chosen, named, urls.parses named⟩
  · obtain ⟨name, listed⟩ := named
    rw [nothing] at listed
    cases listed

end Document

end DeepLink
