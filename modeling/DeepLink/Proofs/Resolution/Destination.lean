import DeepLink.Proofs.Resolution.Navigations
import DeepLink.Proofs.Routing.Offer

namespace DeepLink

namespace Scene

variable {s : Scene} {o : Options} {env : Environment} {r : Resolved}

theorem first_of_leads {t : Scene} {url : String} (fresh : s.navigations = [])
    (h : Leads o env (s.called o env url) t) : t.navigations.head?.map (·.url) = some url := by
  obtain ⟨more, grown⟩ := h.navigations
  rw [← grown, navigations_called, fresh]
  rfl

theorem goTo_first (fresh : s.navigations = []) (url : String) (used : Used) :
    (s.goTo o env r url used).2.navigations.head?.map (·.url) = some url := by
  apply first_of_leads fresh
  rw [goTo_eq]
  exact .refl

theorem visit_first (fresh : s.navigations = []) : (s.visit o env r).2.navigations.head?.map (·.url) =
    (r.links.deepLink.or r.links.web).or r.links.fallback := by
  rw [visit]
  cases r.links.deepLink with
  | some deepLink => exact first_of_leads fresh (race_pursues s o env r deepLink).scene
  | none =>
    cases r.links.web with
    | some web => exact goTo_first fresh web .web
    | none =>
      cases r.links.fallback with
      | some fallback => exact goTo_first fresh fallback .fallback
      | none =>
        dsimp only
        rw [fresh]
        rfl

theorem execute_preferWeb (s : Scene) (o : Options) (env : Environment) {r : Resolved}
    (links : r.links = r.evaluation.links) :
    s.execute { o with preferWeb := true } env r = s.execute { o with preferWeb := false } env r := by
  rw [s.execute_eq { o with preferWeb := true } env links, s.execute_eq { o with preferWeb := false } env links]
  rfl

end Scene

section

variable {o : Options} {env : Environment} {d : Document} (draw : Nat) (channel : Channel) (events : List Event)

theorem first_of_document (document : o.document env = .ok d)
    (way : o.navigator.isSome ∨ env.surface) :
    let links := (d.evaluate (detect o.overrides env draw)).links
    (run o env draw channel events).navigations.head?.map (·.url) =
      (links.deepLink.or links.web).or links.fallback := by
  intro links
  let base := d.untried (detect o.overrides env draw)
  let s := Scene.ready o env channel events base
  obtain ⟨-, -, called⟩ := run_of_document document draw channel events
  have visited : s.execute o env base = s.visit o env base := s.execute_of_way rfl way
  rw [Run.navigations, called, ← Scene.navigations_eq_calls]
  rw [show Scene.ready o env channel events base = s from rfl, visited]
  exact Scene.visit_first (Scene.navigations_ready o env channel events base)

/-- Where there is a way to go, a resolution goes first to what is offered as an action for its result; if nothing is
offered, to the page to fall back to; and if there is none, nowhere. -/
theorem offered_link_first (document : o.document env = .ok d)
    (way : o.navigator.isSome ∨ env.surface) :
    let x := run o env draw channel events
    let evaluation := d.evaluate (detect o.overrides env draw)
    let links := evaluation.links
    (o.Overflows env links ∧ x.outcome = .overflow ∨
      ∃ r, x.outcome = .ok r ∧ r.evaluation = evaluation ∧ r.links = links) ∧
      match action links.deepLink links.web, links.fallback with
      | some offered, _ => x.navigations.head?.map (·.url) = some offered.url
      | none, some fallback => x.navigations.head?.map (·.url) = some fallback
      | none, none => x.navigations = [] := by
  intro x evaluation links
  refine ⟨outcome_of_document draw channel events document, ?_⟩
  have first := first_of_document draw channel events document way
  have offered := Document.action_of_links (issues_of_document document) (detect o.overrides env draw)
  dsimp only at first offered
  rw [← offered] at first
  cases ha : action links.deepLink links.web with
  | some a =>
    rw [ha] at first
    exact first
  | none =>
    rw [ha] at first
    cases hf : links.fallback with
    | some fallback =>
      rw [hf] at first
      exact first
    | none =>
      rw [hf] at first
      simpa using first

def paddedPage : Document where
  default := some { target := { ios := some "app://i", web := some " app://w\n" } }

def onDesktop : Options where
  loader := { delay := 100, load := fun _ => .ok paddedPage.toJson }
  overrides := { os := some .desktop, lang := some "en", bucket := some 0 }
  preferWeb := false

theorem offered_link_first_padded : let x := run onDesktop blinking 0 { value := .hidden } []
    onDesktop.document blinking = .ok paddedPage ∧ blinking.surface ∧
      ∃ r, x.outcome = .ok r ∧ action r.links.deepLink r.links.web = some ⟨.web, " app://w\n"⟩ ∧
        x.navigations.head?.map (·.url) = some " app://w\n" := by
  intro x
  have document : onDesktop.document blinking = .ok paddedPage := by decide +kernel
  have offered : (let links := (paddedPage.evaluate (detect onDesktop.overrides blinking 0)).links
      action links.deepLink links.web) = some ⟨.web, " app://w\n"⟩ := by
    decide +kernel
  obtain ⟨stopped | ⟨r, outcome, -, links⟩, first⟩ :=
    offered_link_first 0 { value := .hidden } [] document (.inr rfl)
  · exact absurd stopped.1.long (by decide)
  · dsimp only at offered first
    rw [offered] at first
    rw [← links] at offered
    exact ⟨document, rfl, r, outcome, offered, first⟩

end

theorem run_preferWeb (o : Options) (env : Environment) (draw : Nat) (channel : Channel) (events : List Event) :
    run { o with preferWeb := true } env draw channel events =
      run { o with preferWeb := false } env draw channel events := by
  have document (prefer : Bool) : Options.document { o with preferWeb := prefer } env = o.document env := rfl
  have loaded (prefer : Bool) :
      Scene.loaded { o with preferWeb := prefer } env channel events = Scene.loaded o env channel events := rfl
  simp only [run, Scene.resolve_eq, Scene.ready, document, loaded]
  cases o.document env with
  | error e => rfl
  | ok d =>
    dsimp only
    rw [Scene.execute_preferWeb _ _ _ rfl]
    rfl

end DeepLink
