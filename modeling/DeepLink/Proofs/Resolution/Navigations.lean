import DeepLink.Proofs.Resolution.Order
import DeepLink.Proofs.Resolution.Outcome
import DeepLink.Proofs.Routing.Chosen
import Mathlib.Data.List.Infix

namespace DeepLink

def Links.link (l : Links) : Used → Option String
  | .deepLink => l.deepLink
  | .web => l.web
  | .fallback => l.fallback
  | .nothing => none

theorem Evaluation.names_link {e : Evaluation} {role : Used} {url : String} (h : e.links.link role = some url) :
    e.target.Names url := by
  cases role with
  | deepLink => exact Target.names_deepLink h
  | web => exact Target.names_web h
  | fallback => exact Target.names_fallbackOrWeb h
  | nothing => cases h

def routes : List (List Used) := [[], [.deepLink], [.deepLink, .fallback], [.web], [.fallback]]

theorem Links.link_of_plan {l : Links} {p : Used × String} (h : p ∈ l.plan) : l.link p.1 = some p.2 := by
  obtain ⟨d, w, f⟩ := l
  cases d <;> cases w <;> cases f <;> simp [plan] at h <;> rcases h with rfl | rfl <;> rfl

theorem Links.plan_mem_routes (l : Links) : l.plan.map (·.1) ∈ routes := by
  obtain ⟨d, w, f⟩ := l
  cases d <;> cases w <;> cases f <;> simp [plan, routes]

theorem routes_prefix {route way : List Used} (h : way <+: route) (known : route ∈ routes) : way ∈ routes := by
  have closed : ∀ route ∈ routes, ∀ way ∈ route.inits, way ∈ routes := by decide
  exact closed route known way ((List.mem_inits way route).2 h)

theorem mem_of_map_eq {α β γ : Type} {f : α → γ} {g : β → γ} {xs : List α} {ys : List β}
    (h : xs.map f = ys.map g) {x : α} (hx : x ∈ xs) : ∃ y ∈ ys, g y = f x :=
  List.mem_map.1 (h ▸ List.mem_map_of_mem hx)

variable (o : Options) (env : Environment) (draw : Nat) (channel : Channel) (events : List Event)

theorem issues_of_document {o : Options} {env : Environment} {d : Document} (h : o.document env = .ok d) :
    d.issues = [] := by
  unfold Options.document at h
  split at h
  · cases h
  · split at h
    · cases h
    · next read =>
      cases h
      exact Document.issues_of_ofJson read

theorem returned_leads : let z := (Scene.resolve { channel, ahead := events } o env draw).2
    ∃ s t, calls s.log = [] ∧ (events.Pairwise (·.time ≤ ·.time) → s.Punctual) ∧ Scene.Leads o env s t ∧
      calls z.log = calls t.log ∧ z.clock = t.clock ∧ z.ahead = t.ahead := by
  let s := Scene.loaded o env channel events
  have fresh : calls s.log = [] := Scene.calls_loaded o env channel events
  have punctual : events.Pairwise (·.time ≤ ·.time) → s.Punctual := fun ordered => Scene.punctual_advance ordered _
  rw [Scene.resolve_eq]
  cases o.document env with
  | error e => exact ⟨s, s, fresh, punctual, .refl, rfl, rfl, rfl⟩
  | ok d =>
    let base := d.untried (detect o.overrides env draw)
    have leads := ((Scene.ready o env channel events base).execute_pursues o env (r := base) rfl).scene
    refine ⟨_, _, ?_, ?_, leads, Scene.calls_deliver _ _, Scene.deliver_clock _ _, Scene.deliver_ahead _ _⟩
    · exact Scene.calls_ready o env channel events base
    · exact fun ordered => (punctual ordered).tell _ _

theorem calls_returned :
    (run o env draw channel events).calls = calls (Scene.resolve { channel, ahead := events } o env draw).2.log :=
  Scene.calls_finish _

theorem calls_own {i : Nat} {n : Navigation} (h : (run o env draw channel events).navigations[i]? = some n) :
    n = o.navigation env i n.url := by
  obtain ⟨s, t, fresh, -, leads, called, -⟩ := returned_leads o env draw channel events
  have own := leads.own (by rw [Scene.navigations_eq_calls, fresh]; rfl)
  rw [Run.navigations, calls_returned, called, ← Scene.navigations_eq_calls, own, List.getElem?_mapIdx] at h
  obtain ⟨n', -, rfl⟩ := Option.map_eq_some_iff.1 h
  rfl

theorem calls_in_time (ordered : events.Pairwise (·.time ≤ ·.time)) :
    let x := run o env draw channel events
    (∀ c ∈ x.calls, c.1 ≤ x.elapsed) ∧
      ∀ e ∈ (Scene.resolve { channel, ahead := events } o env draw).2.ahead, x.elapsed < e.time := by
  obtain ⟨s, t, fresh, punctual, leads, called, elapsed, ahead⟩ := returned_leads o env draw channel events
  have elapsed : (run o env draw channel events).elapsed = t.clock := elapsed
  dsimp only
  rw [calls_returned, called, elapsed, ahead]
  refine ⟨?_, (leads.punctual (punctual ordered)).1.later⟩
  intro c hc
  rcases leads.timely (punctual ordered) c hc with earlier | ⟨-, le⟩
  · rw [fresh] at earlier
    cases earlier
  · exact le

theorem no_calls_of_error {e : ResolveError} (h : o.document env = .error e) :
    (run o env draw channel events).navigations = [] := by
  rw [Run.navigations, calls_returned, Scene.resolve_eq, h, Scene.calls_loaded]
  rfl

theorem no_calls_of_no_way (no_way : o.navigator = none ∧ env.surface = false) :
    (run o env draw channel events).navigations = [] := by
  cases h : o.document env with
  | error e => exact no_calls_of_error o env draw channel events h
  | ok d =>
    obtain ⟨-, -, called⟩ := run_of_document h draw channel events
    rw [Run.navigations, called, Scene.execute_of_no_way no_way, Scene.calls_ready]
    rfl

section

variable {o env} {d : Document} (document : o.document env = .ok d)
include document

theorem route_of_document :
    let links := (d.evaluate (detect o.overrides env draw)).links
    ∃ route ∈ routes, (run o env draw channel events).navigations.map (some ·.url) = route.map links.link := by
  intro links
  obtain ⟨tried, made, plan, -⟩ := run_settled document draw channel events
  have roles := plan.map Prod.fst
  rw [List.map_map] at roles
  refine ⟨tried.map (·.1), routes_prefix roles links.plan_mem_routes, ?_⟩
  rw [made, List.map_map, List.map_map]
  refine List.map_congr_left fun t ht => ?_
  exact (Links.link_of_plan (plan.subset (List.mem_map_of_mem ht))).symm

theorem outcome_of_document :
    let x := run o env draw channel events
    let evaluation := d.evaluate (detect o.overrides env draw)
    o.Overflows env evaluation.links ∧ x.outcome = .overflow ∨
      ∃ r, x.outcome = .ok r ∧ r.evaluation = evaluation ∧ r.links = evaluation.links := by
  intro x evaluation
  by_cases h : o.Overflows env evaluation.links
  · obtain ⟨-, -, outcome, -⟩ := run_of_overflows draw channel events document h
    exact .inl ⟨h, outcome⟩
  · obtain ⟨r, outcome, decided, links, -⟩ := told_around_calls draw channel events document h
    exact .inr ⟨r, outcome, decided, links⟩

end

/-- A resolution goes to links that the document names for the rule that decides, or for the default, which are URLs;
it does so by one of the routes, and to no deep link on a desktop. All calls are made on one navigator in one mode;
none is made where there is no way to go, and none after the return. -/
theorem navigations_named_in_time (o : Options) (env : Environment) (draw : Nat) (channel : Channel)
    (events : List Event) :
    let x := run o env draw channel events
    let z := (Scene.resolve { channel, ahead := events } o env draw).2
    (match o.document env with
      | .error e => x.outcome = .error e ∧ x.navigations = []
      | .ok d =>
        let evaluation := d.evaluate (detect o.overrides env draw)
        (o.Overflows env evaluation.links ∧ x.outcome = .overflow ∨
          ∃ r, x.outcome = .ok r ∧ r.evaluation = evaluation ∧ r.links = evaluation.links) ∧
        (∃ route ∈ routes, x.navigations.map (some ·.url) = route.map evaluation.links.link ∧
          (.deepLink ∈ route → evaluation.os ≠ .desktop)) ∧
        ∀ n ∈ x.navigations, ∃ t, d.chosen? evaluation.index = some t ∧ t.Names n.url ∧
          ∃ u, Url.parse n.url = .ok u) ∧
      (∀ i n, x.navigations[i]? = some n →
        n.sink = o.sink ∧ n.mode = o.mode ∧ n.refusal = o.answer env (o.call i n.url)) ∧
      (o.navigator = none ∧ env.surface = false → x.navigations = []) ∧
      x.elapsed = z.clock ∧ x.log = z.log ++ z.ahead.map (fun e => (e.time, .signal e.signal)) ∧
      (events.Pairwise (·.time ≤ ·.time) →
        (∀ c ∈ x.calls, c.1 ≤ x.elapsed) ∧ ∀ e ∈ z.ahead, x.elapsed < e.time) := by
  intro x z
  refine ⟨?_, ?_, no_calls_of_no_way o env draw channel events, rfl, rfl, calls_in_time o env draw channel events⟩
  · cases h : o.document env with
    | error e =>
      exact ⟨(run_of_error o env draw channel events h).1, no_calls_of_error o env draw channel events h⟩
    | ok d =>
      obtain ⟨route, known, taken⟩ := route_of_document draw channel events h
      refine ⟨outcome_of_document draw channel events h, ⟨route, known, taken, ?_⟩, ?_⟩
      · intro deeper desktop
        obtain ⟨n, -, link⟩ := mem_of_map_eq taken.symm deeper
        rw [Links.link, Scene.deepLink_eq_none_of_desktop desktop] at link
        cases link
      · intro n hn
        obtain ⟨role, -, link⟩ := mem_of_map_eq taken hn
        exact Document.names_url (issues_of_document h) (Evaluation.names_link link)
  · intro i n hn
    rw [calls_own o env draw channel events hn]
    exact ⟨rfl, rfl, rfl⟩

end DeepLink
