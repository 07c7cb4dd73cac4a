import DeepLink.Proofs.Routing.Chosen
import DeepLink.Routing.Links

namespace DeepLink

namespace Url

theorem mem_of_mem_clean {text : List Char} {c : Char} (h : c ∈ clean text) : c ∈ text := by
  rw [clean] at h
  have inner := (List.mem_filter.1 h).1
  rw [List.mem_reverse] at inner
  have left := (List.dropWhile_sublist _).subset inner
  rw [List.mem_reverse] at left
  exact (List.dropWhile_sublist _).subset left

theorem letter_of_scheme? {s : List Char} {x : List Char × List Char} (h : scheme? s = some x) :
    ∃ c ∈ s, c.isAlpha := by
  cases s with
  | nil => cases h
  | cons c s =>
    by_cases letter : c.isAlpha
    · exact ⟨c, List.mem_cons_self, letter⟩
    · rw [scheme?, if_neg letter] at h
      cases h

theorem not_allBlank_of_parse {text : String} {u : Url} (h : parse text = .ok u) : Text.allBlank text = false := by
  rw [parse] at h
  split at h
  · cases h
  · next found =>
    obtain ⟨c, hc, letter⟩ := letter_of_scheme? found
    rw [← Bool.not_eq_true, Text.allBlank_iff]
    intro blank
    have := blank c (mem_of_mem_clean hc)
    rw [Text.isBlank_of_isAlpha letter] at this
    cases this

end Url

theorem notBlank_of_parse {link : Option String} (h : ∀ url, link = some url → ∃ u, Url.parse url = .ok u) :
    notBlank link = link := by
  cases link with
  | none => rfl
  | some url =>
    obtain ⟨u, hu⟩ := h url rfl
    simp [notBlank, Url.not_allBlank_of_parse hu]

theorem action_of_notBlank {deepLink web : Option String} (hd : notBlank deepLink = deepLink)
    (hw : notBlank web = web) : (action deepLink web).map (·.url) = deepLink.or web := by
  rw [action, hd, hw]
  cases deepLink with
  | some url => rfl
  | none => cases web <;> rfl

theorem Document.action_of_links {d : Document} (valid : d.issues = []) (ctx : Context) :
    let links := (d.evaluate ctx).links
    (action links.deepLink links.web).map (·.url) = links.deepLink.or links.web := by
  intro links
  have url_of_named : ∀ url, (d.evaluate ctx).target.Names url → ∃ u, Url.parse url = .ok u := by
    intro url named
    obtain ⟨t, -, -, parsed⟩ := names_url valid named
    exact parsed
  apply action_of_notBlank
  · apply notBlank_of_parse
    intro url h
    exact url_of_named url (Target.names_deepLink h)
  · apply notBlank_of_parse
    intro url h
    exact url_of_named url (Target.names_web h)

end DeepLink
