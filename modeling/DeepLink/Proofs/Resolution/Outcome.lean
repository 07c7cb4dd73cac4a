import DeepLink.Proofs.Resolution.Race

namespace DeepLink

def Links.plan (l : Links) : List (Used × String) :=
  match l.deepLink, l.web with
  | some deepLink, _ => (.deepLink, deepLink) :: (l.fallback.map (.fallback, ·)).toList
  | none, some web => [(.web, web)]
  | none, none => (l.fallback.map (.fallback, ·)).toList

theorem Links.plan_of_deepLink {l : Links} {deepLink : String} (h : l.deepLink = some deepLink) :
    l.plan = (.deepLink, deepLink) :: (l.fallback.map (Used.fallback, ·)).toList := by
  rw [plan, h]

def lastRefusal (tried : List (Used × Navigation)) : Option Refusal :=
  (tried.filterMap (·.2.refusal)).getLast?

theorem Links.role_ne_nothing {l : Links} {p : Used × String} (h : p ∈ l.plan) : p.1 ≠ .nothing := by
  obtain ⟨d, w, f⟩ := l
  cases d <;> cases w <;> cases f <;> simp [Links.plan] at h <;> rcases h with h | h <;> simp_all

structure Accounts (r : Resolved) (tried : List (Used × Navigation)) : Prop where
  used : r.used = tried.getLast?.elim .nothing fun t => t.2.refusal.elim t.1 fun _ => .nothing
  error : r.error = lastRefusal tried

theorem lastRefusal_concat (tried : List (Used × Navigation)) (t : Used × Navigation) :
    lastRefusal (tried ++ [t]) = t.2.refusal.or (lastRefusal tried) := by
  rw [lastRefusal, List.filterMap_append, List.getLast?_append]
  cases h : t.2.refusal <;> simp [h, lastRefusal]

theorem Accounts.answered {r : Resolved} {tried : List (Used × Navigation)} (used : Used)
    (n : Navigation) (error : r.error = lastRefusal tried) :
    Accounts (r.answered used n.refusal) (tried ++ [(used, n)]) := by
  cases h : n.refusal with
  | none => exact ⟨by simp [Resolved.answered, h], by simp [Resolved.answered, lastRefusal_concat, h, error]⟩
  | some e => exact ⟨by simp [Resolved.answered, h], by simp [Resolved.answered, lastRefusal_concat, h]⟩

theorem Resolved.answered_links (r : Resolved) (used : Used) (refusal : Option Refusal) :
    (r.answered used refusal).links = r.links := by
  cases refusal <;> rfl

structure Settled (l : Links) (y : Option Resolved × Scene) (tried : List (Used × Navigation)) : Prop where
  calls : y.2.navigations = tried.map (·.2)
  plan : tried.map (fun t => (t.1, t.2.url)) <+: l.plan
  accounts : ∀ r ∈ y.1, r.links = l ∧ Accounts r tried

theorem fallback_of_settle {hidden : Option Nat} {start timeout last : Nat} {fallback : Option String}
    {url : String} (h : (settle hidden start timeout last fallback).2 = .timeout url) : fallback = some url := by
  rw [settle] at h
  rcases earliest_eq_or_mem (afterWait start last, Ending.backstop) _ with backstop | ended
  · rw [backstop] at h
    cases h
  · generalize earliest _ _ = settled at h ended
    obtain ⟨time, ending⟩ := settled
    obtain rfl : ending = .timeout url := h
    have waits : fallback = some url ∧ afterWait start timeout = time := by simpa using ended
    exact waits.1

namespace Scene

variable {s : Scene} {o : Options} {env : Environment} {r : Resolved}

theorem settled_some {l : Links} {tried : List (Used × Navigation)} (made : s.navigations = tried.map (·.2))
    (plan : tried.map (fun t => (t.1, t.2.url)) <+: l.plan) (links : r.links = l) (accounts : Accounts r tried) :
    Settled l (some r, s) tried := by
  refine ⟨made, plan, ?_⟩
  rintro _ ⟨⟩
  exact ⟨links, accounts⟩

theorem settled_none {l : Links} {tried : List (Used × Navigation)} (made : s.navigations = tried.map (·.2))
    (plan : tried.map (fun t => (t.1, t.2.url)) <+: l.plan) : Settled l (none, s) tried := by
  refine ⟨made, plan, ?_⟩
  rintro _ ⟨⟩

theorem goTo_settled (tried : List (Used × Navigation)) {used : Used} {url : String}
    (made : s.navigations = tried.map (·.2)) (error : r.error = lastRefusal tried)
    (plan : tried.map (fun t => (t.1, t.2.url)) ++ [(used, url)] <+: r.links.plan) :
    ∃ tried, Settled r.links (s.goTo o env r url used) tried := by
  let n := o.navigation env s.navigations.length url
  rw [goTo_eq]
  refine ⟨tried ++ [(used, n)], settled_some ?_ ?_ (r.answered_links _ _) (Accounts.answered used n error)⟩
  · rw [navigations_called, List.map_append, ← made]
    rfl
  · rw [List.map_append]
    exact plan

theorem concluded_settled {tried : List (Used × Navigation)} (made : s.navigations = tried.map (·.2))
    (plan : tried.map (fun t => (t.1, t.2.url)) <+: r.links.plan) (opened : Accounts { r with used := .deepLink } tried)
    {settled : Nat × Ending} (further : ∀ url, settled.2 = .timeout url →
      tried.map (fun t => (t.1, t.2.url)) ++ [(.fallback, url)] <+: r.links.plan) :
    ∃ tried, Settled r.links (s.concluded o env r settled) tried := by
  obtain ⟨time, ending⟩ := settled
  have waited : (s.advance time).navigations = tried.map (·.2) := by rw [navigations_advance, made]
  cases ending with
  | hidden => exact ⟨tried, settled_some waited plan rfl opened⟩
  | backstop => exact ⟨tried, settled_some waited plan rfl opened⟩
  | timeout url => exact goTo_settled tried waited opened.error (further url rfl)

theorem race_settled {deepLink : String} (made : s.navigations = []) (used : r.used = .nothing)
    (error : r.error = none) (link : r.links.deepLink = some deepLink) :
    ∃ tried, Settled r.links (s.race o env r deepLink) tried := by
  let first := o.navigation env 0 deepLink
  have plan := Links.plan_of_deepLink link
  have called : (s.called o env deepLink).navigations = [first] := by
    rw [navigations_called, made]
    rfl
  have deeper : [(Used.deepLink, first)].map (fun t => (t.1, t.2.url)) <+: r.links.plan := by
    rw [plan]
    exact ⟨_, rfl⟩
  have further : ∀ url, r.links.fallback = some url →
      [(Used.deepLink, first)].map (fun t => (t.1, t.2.url)) ++ [(.fallback, url)] <+: r.links.plan := by
    intro url hf
    rw [plan, hf]
    exact ⟨[], rfl⟩
  have same : o.answer env (o.call s.navigations.length deepLink) = first.refusal := by
    rw [made]
    rfl
  cases refusal : first.refusal with
  | none =>
    have accepted := same.trans refusal
    rcases Nat.lt_or_ge longestSpan (o.timeout.ms + backstop.ms) with long | fits
    · rw [race_of_overflow accepted long]
      exact ⟨[(.deepLink, first)], settled_none called deeper⟩
    · rw [race_of_accepted accepted fits]
      refine concluded_settled called deeper ⟨?_, ?_⟩ fun url ended => further url (fallback_of_settle ended)
      · simp [refusal]
      · simp [lastRefusal, refusal, error]
  | some e =>
    have last : some e = lastRefusal [(Used.deepLink, first)] := by simp [lastRefusal, refusal]
    rw [race, navigate_eq, same.trans refusal]
    dsimp only
    cases hf : r.links.fallback with
    | none =>
      refine ⟨[(.deepLink, first)], settled_some called deeper rfl ⟨?_, last⟩⟩
      simp [used, refusal]
    | some url =>
      exact goTo_settled (r := { r with error := some e }) [(.deepLink, first)] called last (further url hf)

theorem visit_settled (made : s.navigations = []) (used : r.used = .nothing) (error : r.error = none) :
    ∃ tried, Settled r.links (s.visit o env r) tried := by
  rw [visit]
  cases hd : r.links.deepLink with
  | some deepLink => exact race_settled made used error hd
  | none =>
    cases hw : r.links.web with
    | some web => exact goTo_settled [] made error ⟨[], by simp [Links.plan, hd, hw]⟩
    | none =>
      cases hf : r.links.fallback with
      | some url => exact goTo_settled [] made error ⟨[], by simp [Links.plan, hd, hw, hf]⟩
      | none => exact ⟨[], settled_some made List.nil_prefix rfl ⟨used, error⟩⟩

theorem execute_settled (made : s.navigations = []) (used : r.used = .nothing) (error : r.error = none)
    (links : r.links = r.evaluation.links) : ∃ tried, Settled r.links (s.execute o env r) tried := by
  rw [s.execute_eq o env links]
  split
  · exact ⟨[], settled_some made List.nil_prefix rfl ⟨used, error⟩⟩
  · exact visit_settled made used error

end Scene

theorem run_settled {o : Options} {env : Environment} {d : Document} (document : o.document env = .ok d) (draw : Nat)
    (channel : Channel) (events : List Event) :
    let x := run o env draw channel events
    let links := (d.evaluate (detect o.overrides env draw)).links
    ∃ tried, x.navigations = tried.map (·.2) ∧ tried.map (fun t => (t.1, t.2.url)) <+: links.plan ∧
      ∀ r, x.outcome = .ok r → r.links = links ∧ Accounts r tried := by
  intro x links
  let base := d.untried (detect o.overrides env draw)
  let y := (Scene.ready o env channel events base).execute o env base
  have fresh := Scene.navigations_ready o env channel events base
  obtain ⟨outcome, -, made⟩ : x.outcome = y.1.elim .overflow .ok ∧ x.elapsed = y.2.clock ∧ x.calls = calls y.2.log :=
    run_of_document document draw channel events
  obtain ⟨tried, settled⟩ : ∃ tried, Settled base.links y tried := Scene.execute_settled fresh rfl rfl rfl
  refine ⟨tried, ?_, settled.plan, ?_⟩
  · rw [Run.navigations, made, ← Scene.navigations_eq_calls]
    exact settled.calls
  · intro r returned
    apply settled.accounts
    rw [outcome] at returned
    cases result : y.1 with
    | none =>
      rw [result] at returned
      cases returned
    | some r' =>
      rw [result] at returned
      exact congrArg some (Result.ok.inj returned)

theorem getLast?_filterMap_refusal {calls : List Navigation} {c : Navigation}
    (h : (calls.filter (·.refusal ≠ none)).getLast? = some c) :
    (calls.filterMap (·.refusal)).getLast? = c.refusal := by
  obtain ⟨before, hs⟩ := List.getLast?_eq_some_iff.1 h
  have refused : c.refusal ≠ none := by
    have hc : c ∈ calls.filter (·.refusal ≠ none) := by
      rw [hs]
      exact List.mem_append_right _ List.mem_cons_self
    simpa using (List.mem_filter.1 hc).2
  have same : calls.filterMap (·.refusal) = (calls.filter (·.refusal ≠ none)).filterMap (·.refusal) := by
    rw [List.filterMap_filter]
    congr 1
    funext n
    cases n.refusal <;> rfl
  obtain ⟨e, he⟩ := Option.ne_none_iff_exists'.1 refused
  rw [same, hs, List.filterMap_append, List.getLast?_append]
  simp [he]

/-- The calls of a run go to the first links of the plan. What is used is the role of the last call, if that
was taken, and the error is that of the last call that was refused. -/
theorem outcome_accounts_for_calls {o : Options} {env : Environment} {draw : Nat} {channel : Channel}
    {events : List Event} {r : Resolved} (h : (run o env draw channel events).outcome = .ok r) :
    let calls := (run o env draw channel events).navigations
    let planned := r.links.plan.take calls.length
    calls.map (·.url) = planned.map (·.2) ∧
      (r.used = .nothing ↔ calls = [] ∨ ∃ c, calls.getLast? = some c ∧ c.refusal ≠ none) ∧
      (∀ c, calls.getLast? = some c → c.refusal = none → planned.getLast?.map (·.1) = some r.used) ∧
      (r.error = none ↔ ∀ c ∈ calls, c.refusal = none) ∧
      (∀ c, (calls.filter (·.refusal ≠ none)).getLast? = some c → r.error = c.refusal) := by
  intro calls planned
  obtain ⟨d, document⟩ := document_of_run h
  obtain ⟨tried, made, plan, agrees⟩ := run_settled document draw channel events
  obtain ⟨links, accounts⟩ := agrees r h
  rw [← links] at plan
  have hc : calls = tried.map (·.2) := made
  have hp : planned = tried.map fun t => (t.1, t.2.url) := by
    have := List.prefix_iff_eq_take.1 plan
    rw [List.length_map] at this
    simp only [planned, hc, List.length_map]
    exact this.symm
  have error : r.error = (calls.filterMap (·.refusal)).getLast? := by
    rw [accounts.error, lastRefusal, hc, List.filterMap_map]
    rfl
  refine ⟨?_, ?_, ?_, ?_, ?_⟩
  · simp [hc, hp]
  · rw [accounts.used, hc]
    cases hl : tried.getLast? with
    | none => simp [List.getLast?_eq_none_iff.1 hl]
    | some t =>
      have ht : t.1 ≠ .nothing :=
        Links.role_ne_nothing (plan.subset (List.mem_map_of_mem (List.mem_of_getLast? hl)))
      have hn : tried ≠ [] := by
        rintro rfl
        simp at hl
      cases hr : t.2.refusal <;> simp [hl, hr, ht, hn]
  · intro c hl hr
    rw [hc, List.getLast?_map] at hl
    obtain ⟨t, ht, rfl⟩ := Option.map_eq_some_iff.1 hl
    rw [hp, List.getLast?_map, accounts.used, ht]
    simp [hr]
  · rw [error, List.getLast?_eq_none_iff, List.filterMap_eq_nil_iff]
  · intro c hl
    rw [error]
    exact getLast?_filterMap_refusal hl

def stranded : Options :=
  { phone (oneLink (some "app://store")) 100 500 with navigator := some (.ofBans [⟨"app://s", none⟩]) }

theorem outcome_accounts_for_stranded :
    let x := run stranded blinking 0 { value := .hidden } []
    let r := { onPhone (some "app://store") with error := some .noSurface }
    x.outcome = .ok r ∧ (∃ c, x.navigations.getLast? = some c ∧ c.refusal = some .noSurface) ∧
      (r.used = .nothing ↔
        x.navigations = [] ∨ ∃ c, x.navigations.getLast? = some c ∧ c.refusal ≠ none) := by
  intro x r
  have h : x.outcome = .ok r := by decide +kernel
  have last : x.navigations.getLast? = some ⟨.injected, "app://store", .assign, some .noSurface⟩ := by
    decide +kernel
  exact ⟨h, ⟨_, last, rfl⟩, (outcome_accounts_for_calls h).2.1⟩

end DeepLink
