import DeepLink.Proofs.Rules.Agreement
import DeepLink.Proofs.Rules.Grammar
import DeepLink.Rules.Check

namespace DeepLink

def Under (path : Path) (found : List Issue) : Prop := ∀ i ∈ found, path <+: i.path

section

variable {path : Path} {found more : List Issue}

theorem under_nil : Under path [] := nofun

theorem under_append : Under path (found ++ more) ↔ Under path found ∧ Under path more := List.forall_mem_append

theorem under_self (problem : Problem) : Under path [⟨path, problem⟩] := by
  intro i hi
  obtain rfl := List.mem_singleton.1 hi
  exact List.prefix_rfl

theorem Under.of_append {rest : Path} (h : Under (path ++ rest) found) : Under path found :=
  fun i hi => (List.prefix_append path rest).trans (h i hi)

theorem under_step (step : Step) (problem : Problem) : Under path [⟨path ++ [step], problem⟩] :=
  (under_self problem).of_append

end

def Local {α : Type} (check : Path → α → List Issue) : Prop := ∀ path x, Under path (check path x)

namespace Local

variable {α : Type} {check more : Path → α → List Issue}

theorem append (h : Local check) (k : Local more) : Local fun path x => check path x ++ more path x :=
  fun path x => under_append.2 ⟨h path x, k path x⟩

theorem below (h : Local check) (rest : Path) : Local fun path x => check (path ++ rest) x :=
  fun path x => (h (path ++ rest) x).of_append

theorem of {β : Type} (h : Local check) (part : β → α) : Local fun path x => check path (part x) :=
  fun path x => h path (part x)

theorem each (h : Local check) : Local fun path xs => issuesOf path check xs := by
  intro path xs i hi
  obtain ⟨group, hg, hi⟩ := List.mem_flatten.1 hi
  obtain ⟨n, hn, rfl⟩ := List.mem_mapIdx.1 hg
  exact (h _ _).of_append i hi

theorem option (h : Local check) : Local fun path (o : Option α) => o.elim [] (check path) := by
  intro path o
  cases o with
  | none => exact under_nil
  | some x => exact h path x

end Local

namespace Shape

variable {check : Path → Json → List Issue}

theorem under_field (h : Local check) (path : Path) (name : String) (v : Json) :
    Under (path ++ [.key name]) (field path name check v) := by
  unfold field
  split
  · exact under_nil
  · exact under_nil
  · exact h _ _

theorem local_field (h : Local check) (name : String) : Local fun path v => field path name check v :=
  fun path v => (under_field h path name v).of_append

theorem local_string : Local string := by
  intro path v
  unfold string
  split
  · exact under_nil
  · exact under_self _

theorem local_stamp : Local stamp := by
  intro path v
  unfold stamp
  split
  · split
    · exact under_nil
    · exact under_self _
  · exact under_self _

theorem local_osName : Local osName := by
  intro path v
  unfold osName
  split
  · split
    · exact under_nil
    · exact under_self _
  · exact under_self _

theorem local_array (h : Local check) : Local (array check) := by
  intro path v
  unfold array
  split
  · exact h.each path _
  · exact under_self _

theorem local_object (h : Local check) : Local (object check) := by
  intro path v
  unfold object
  split
  · exact h _ _
  · exact under_self _

theorem local_link (name other : String) : Local fun path v => link path name other v := by
  refine ((local_field local_string name).append (local_field local_string other)).append fun path v => ?_
  split
  · exact under_step _ _
  · exact under_nil

theorem local_target : Local target :=
  (((local_link "ios" "deepLinkIOS").append (local_link "android" "deepLinkAndroid")).append
    (local_field local_string "web")).append (local_field local_string "fallback")

theorem local_targetField : Local targetField := by
  intro path v
  unfold targetField
  split
  · exact under_step _ _
  · exact (local_object local_target).below _ path _

theorem local_dateRange : Local dateRange :=
  (local_field local_stamp "start").append (local_field local_stamp "end")

theorem local_rollout : Local rollout := by
  intro path v
  unfold rollout
  split
  · exact under_nil
  · refine under_append.2 ⟨?_, local_field local_string "seed" path _⟩
    split
    · exact under_nil
    · exact under_step _ _
  · exact under_self _

theorem local_condition : Local condition :=
  (((local_field (local_array local_osName) "os").append (local_field (local_array local_string) "lang")).append
    (local_field (local_object local_dateRange) "dateRange")).append (local_field local_rollout "rollout")

theorem local_rule : Local rule :=
  (local_targetField.append (local_field local_string "reason")).append
    (local_field (local_object local_condition) "if")

theorem local_defaultRule : Local defaultRule := local_targetField.append (local_field local_string "reason")

theorem local_info : Local info :=
  (local_field local_string "version").append (local_field local_stamp "generatedAt")

theorem under_rules (v : Json) : Under [.key "rules"] (rules v) := by
  unfold rules
  split
  · exact under_nil
  · exact local_array (local_object local_rule) _ _

end Shape

theorem Target.local_issues : Local issues := by
  intro path t i hi
  obtain ⟨⟨name, uri⟩, -, found⟩ := List.mem_filterMap.1 hi
  dsimp only at found
  split at found
  · cases found
  · obtain rfl := Option.some.inj found
    exact List.prefix_append _ _

namespace Condition

theorem local_tagIssues : Local tagIssues := by
  intro path tag
  unfold tagIssues
  split
  · exact under_self _
  · exact under_nil

theorem local_rangeIssues : Local rangeIssues := by
  intro path r
  unfold rangeIssues
  split
  · split
    · exact under_nil
    · exact under_self _
  · exact under_nil

theorem local_rolloutIssues : Local rolloutIssues := by
  intro path r
  unfold rolloutIssues
  split
  · exact under_nil
  · exact under_self _

theorem local_issues : Local issues :=
  (((local_tagIssues.each.below [.key "lang"]).of fun c : Condition => c.lang.getD []).append
    ((local_rangeIssues.below [.key "dateRange"]).option.of dateRange)).append
      ((local_rolloutIssues.below [.key "rollout"]).option.of rollout)

end Condition

theorem Rule.local_issues : Local issues :=
  ((Target.local_issues.below [.key "target"]).of target).append
    ((Condition.local_issues.below [.key "if"]).option.of condition)

def Rooted (found : List Issue) : Prop := ∀ i ∈ found, ∃ name ∈ ["rules", "default", "meta"], [.key name] <+: i.path

theorem rooted_append {found more : List Issue} : Rooted (found ++ more) ↔ Rooted found ∧ Rooted more :=
  List.forall_mem_append

theorem Under.rooted {name : String} {found : List Issue} (h : Under [.key name] found)
    (known : name ∈ ["rules", "default", "meta"]) : Rooted found :=
  fun i hi => ⟨name, known, h i hi⟩

theorem Shape.rooted_document {v : Json} (h : v.IsObject) : Rooted (document v) := by
  obtain ⟨members, rfl⟩ := h
  refine rooted_append.2 ⟨rooted_append.2 ⟨?_, ?_⟩, ?_⟩
  · exact (under_rules _).rooted (by decide)
  · exact (under_field (local_object local_defaultRule) [] "default" _).rooted (by decide)
  · exact (under_field (local_object local_info) [] "meta" _).rooted (by decide)

namespace Document

theorem rooted_issues (d : Document) : Rooted d.issues := by
  refine rooted_append.2 ⟨rooted_append.2 ⟨?_, ?_⟩, ?_⟩
  · split
    · exact Under.rooted (under_self .noRule) (by decide)
    · exact (show Under [.key "rules"] [] from under_nil).rooted (by decide)
  · exact (Rule.local_issues.each [.key "rules"] d.rules).rooted (by decide)
  · have local_default : Local fun path (r : DefaultRule) => r.target.issues (path ++ [.key "target"]) :=
      (Target.local_issues.below [.key "target"]).of DefaultRule.target
    exact (local_default.option [.key "default"] d.default).rooted (by decide)

end Document

theorem Path.text_ne_root {path : Path} (h : ∃ name ∈ ["rules", "default", "meta"], [.key name] <+: path) :
    path.text ≠ "$" := by
  obtain ⟨name, known, rest, rfl⟩ := h
  have begins : name.toList <+: (Path.text (.key name :: rest)).toList := by
    rw [Path.text, List.map_cons, String.toList_intercalate, Step.text]
    · cases rest with
      | nil => simp
      | cons step rest => simp
    · exact nofun
  intro he
  -- the root is one character, and no member is
  have short : name.toList.length ≤ 1 := by
    have := begins.length_le
    rw [List.singleton_append] at he
    rwa [he] at this
  simp only [List.mem_cons, List.not_mem_nil, or_false] at known
  rcases known with rfl | rfl | rfl <;> exact absurd short (by decide)

namespace Document

theorem ofJson_of_reads {raw : Json} {d : Document} (h : Reads raw d) : ofJson raw = d.check := by
  have silent := (Shape.document_eq_nil raw).2 ⟨d, h⟩
  simp only [ofJson, silent, decodes raw d h]

theorem ofJson_of_not_object {raw : Json} (h : ¬raw.IsObject) : ofJson raw = .error (.issues [⟨[], .notObject⟩]) := by
  cases raw with
  | object members => exact (h ⟨members, rfl⟩).elim
  | _ => rfl

theorem rooted_of_object {raw : Json} {e : Invalid} (object : raw.IsObject) (h : ofJson raw = .error e) :
    Rooted e.found := by
  by_cases silent : Shape.document raw.canonical = []
  · obtain ⟨d, read⟩ := (Shape.document_eq_nil raw).1 silent
    rw [ofJson_of_reads read, check] at h
    split at h
    · cases h
    · cases h
      exact d.rooted_issues
  · have found : ofJson raw = .error (.issues (Shape.document raw.canonical)) := by
      unfold ofJson
      dsimp only
      split
      · next none => exact (silent none).elim
      · rfl
    rw [found] at h
    cases h
    exact Shape.rooted_document (Json.isObject_canonical.2 object)

/-- The check of the form finds nothing exactly in the values that are documents; these are always decoded,
as what they say field by field. Only a value that is no object has an issue at the root. -/
theorem form_decides_reading (raw : Json) :
    (Shape.document raw.canonical = [] ↔ ∃ d, Reads raw d) ∧
      (∀ d, Reads raw d ↔ Shape.document raw.canonical = [] ∧ ofJson? raw.canonical = some d) ∧
      (Shape.document raw.canonical = [] → ∃ d, ofJson? raw.canonical = some d ∧ ofJson raw = d.check) ∧
      ((∃ e, ofJson raw = .error e ∧ ∃ i ∈ e.found, i.path.text = "$") ↔ ¬raw.IsObject) := by
  have decided := Shape.document_eq_nil raw
  refine ⟨decided, ?_, ?_, ?_⟩
  · intro d
    constructor
    · intro read
      exact ⟨decided.2 ⟨d, read⟩, decodes raw d read⟩
    · rintro ⟨silent, decoded⟩
      obtain ⟨d', read⟩ := decided.1 silent
      obtain rfl := Option.some.inj (decoded.symm.trans (decodes raw d' read))
      exact read
  · intro silent
    obtain ⟨d, read⟩ := decided.1 silent
    exact ⟨d, decodes raw d read, ofJson_of_reads read⟩
  · constructor
    · rintro ⟨e, failed, i, hi, root⟩ object
      exact Path.text_ne_root (rooted_of_object object failed i hi) root
    · intro no_object
      exact ⟨_, ofJson_of_not_object no_object, _, List.mem_singleton_self _, rfl⟩

end Document

end DeepLink
