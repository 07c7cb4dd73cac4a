import DeepLink.Proofs.Visitor.Splitting

namespace DeepLink.UserAgent

namespace Token

def body : Token → List Char
  | product text => text
  | comment inner => inner

def segments : Token → List (List Char)
  | product text => [Text.trim text]
  | comment inner => (Text.split ';' inner).map Text.trim

theorem comment?_eq_some_iff {t : Token} {inner : List Char} : t.comment? = some inner ↔ t = .comment inner := by
  cases t <;> simp [comment?]

theorem product?_eq_some_iff {t : Token} {text : List Char} : t.product? = some text ↔ t = .product text := by
  cases t <;> simp [product?]

theorem isInfix_of_segment {t : Token} {x : List Char} (h : x ∈ t.segments) : x <:+: t.body := by
  cases t with
  | product text =>
    rw [List.mem_singleton.1 h]
    exact Text.isInfix_trim text
  | comment inner =>
    obtain ⟨part, hp, rfl⟩ := List.mem_map.1 h
    exact (Text.isInfix_trim part).trans (Text.isInfix_of_mem_split hp)

inductive Grows : Token → Token → Prop where
  | comment (inner : List Char) : Grows (.comment inner) (.comment inner)
  | product (text : List Char) {more : List Char} (plain : ∀ c ∈ more, isPlain c) :
      Grows (.product text) (.product (text ++ more))

end Token

theorem mem_segments {ts : List Token} {x : List Char} : x ∈ segments ts ↔ ∃ t ∈ ts, x ∈ t.segments := by
  simp only [segments, comments, products, List.mem_map, List.mem_append, List.mem_flatMap, List.mem_filterMap,
    Token.comment?_eq_some_iff, Token.product?_eq_some_iff, exists_eq_right]
  constructor
  · rintro ⟨part, ⟨inner, hi, hp⟩ | ht, rfl⟩
    · exact ⟨.comment inner, hi, List.mem_map_of_mem hp⟩
    · exact ⟨.product part, ht, List.mem_singleton.2 rfl⟩
  · rintro ⟨t, ht, hx⟩
    cases t with
    | product text => exact ⟨text, .inr ht, (List.mem_singleton.1 hx).symm⟩
    | comment inner =>
      obtain ⟨part, hp, rfl⟩ := List.mem_map.1 hx
      exact ⟨part, .inl ⟨inner, ht, hp⟩, rfl⟩

def Names (ts : List Token) (name : List Char) : Prop := ∃ x ∈ segments ts, name <+: x

namespace Renders

theorem isProduct {ts : List Token} {s text : List Char} (h : Renders ts s) (ht : .product text ∈ ts) :
    IsProduct text := by
  induction h with
  | blank => cases ht
  | product _ ok _ _ ih =>
    rcases List.mem_cons.1 ht with he | ht
    · cases he
      exact ok
    · exact ih ht
  | comment _ _ _ ih =>
    rcases List.mem_cons.1 ht with he | ht
    · cases he
    · exact ih ht

theorem isInfix_body {ts : List Token} {s : List Char} {t : Token} (h : Renders ts s) (ht : t ∈ ts) : t.body <:+: s := by
  induction h with
  | blank => cases ht
  | @product gap text s _ _ _ _ _ ih =>
    rcases List.mem_cons.1 ht with rfl | ht
    · exact ⟨gap, s, List.append_assoc gap text s⟩
    · rw [← List.append_assoc]
      exact (ih ht).trans (List.suffix_append _ s).isInfix
  | @comment gap inner s _ _ _ _ ih =>
    rcases List.mem_cons.1 ht with rfl | ht
    · exact ⟨gap ++ ['('], ')' :: s, by simp [Token.body]⟩
    · have tail : s <:+ gap ++ '(' :: (inner ++ ')' :: s) := ⟨gap ++ '(' :: (inner ++ [')']), by simp⟩
      exact (ih ht).trans tail.isInfix

theorem isInfix_of_names {ts : List Token} {s name : List Char} (h : Renders ts s) (hn : Names ts name) : name <:+: s := by
  obtain ⟨x, hx, start⟩ := hn
  obtain ⟨t, ht, hx⟩ := mem_segments.1 hx
  exact start.isInfix.trans ((Token.isInfix_of_segment hx).trans (h.isInfix_body ht))

end Renders

def Survive (ts us : List Token) : Prop := ∀ t ∈ ts, ∃ u ∈ us, t.Grows u

theorem Survive.cons {ts us : List Token} (h : Survive ts us) {t u : Token} (grows : t.Grows u) :
    Survive (t :: ts) (u :: us) := by
  intro v hv
  rcases List.mem_cons.1 hv with rfl | hv
  · exact ⟨u, List.mem_cons_self, grows⟩
  · obtain ⟨w, hw, hg⟩ := h v hv
    exact ⟨w, List.mem_cons_of_mem u hw, hg⟩

theorem Survive.names {ts us : List Token} (h : Survive ts us) {s name : List Char} (renders : Renders ts s)
    (hn : Names ts name) : Names us name := by
  obtain ⟨x, hx, start⟩ := hn
  obtain ⟨t, ht, hx⟩ := mem_segments.1 hx
  obtain ⟨u, hu, grows⟩ := h t ht
  cases grows with
  | comment inner => exact ⟨x, mem_segments.2 ⟨_, hu, hx⟩, start⟩
  | @product text more plain =>
    -- nothing is trimmed from a product, so it is the segment itself that goes on
    have own := renders.isProduct ht
    have longer : IsProduct (text ++ more) :=
      ⟨List.append_ne_nil_of_left_ne_nil own.ne_nil more, List.forall_mem_append.2 ⟨own.plain, plain⟩⟩
    rw [List.mem_singleton.1 hx, Text.trim_eq_self own.solid] at start
    refine ⟨text ++ more, mem_segments.2 ⟨_, hu, ?_⟩, start.trans (List.prefix_append text more)⟩
    rw [Token.segments, Text.trim_eq_self longer.solid]
    exact List.mem_singleton.2 rfl

theorem Renders.survive {ts : List Token} {s : List Char} (h : Renders ts s) (tail : List Char) :
    Survive ts (tokens (Text.trimStart (s ++ tail))).1 := by
  induction h with
  | blank => exact nofun
  | @product gap text s ts hg ht apart rest ih =>
    rw [List.append_assoc, List.append_assoc, Text.trimStart_append hg, trimStart_product ht, tokens_product ht]
    have grows := Token.Grows.product text (List.all_eq_true.1 (List.all_takeWhile (p := isPlain) (l := s ++ tail)))
    refine Survive.cons ?_ grows
    cases s with
    -- only the last product can go on
    | nil =>
      cases tokens_nil.symm.trans rest.tokens_eq
      exact nofun
    | cons c s =>
      have stop : ¬ isPlain c := by
        rw [rest.stops apart c rfl]
        nofun
      rw [List.cons_append, List.dropWhile_cons_of_neg stop]
      exact ih
  | comment hg hi _ ih =>
    rw [List.append_assoc, List.cons_append, List.append_assoc, List.cons_append, Text.trimStart_append hg,
      Text.trimStart_cons rfl, tokens_comment (comment?_eq_some_iff.2 ⟨hi, rfl⟩)]
    exact ih.cons (.comment _)

theorem choose_eq_iOS_iff {apple android : Bool} : choose apple android = .iOS ↔ apple := by
  cases apple <;> cases android <;> decide

theorem choose_eq_desktop_iff {apple android : Bool} : choose apple android = .desktop ↔ ¬ apple ∧ ¬ android := by
  cases apple <;> cases android <;> decide

theorem any_segments_iff {ts : List Token} {names : List (List Char)} :
    ((segments ts).any fun x => names.any (·.isPrefixOf x)) ↔ ∃ name ∈ names, Names ts name := by
  simp only [List.any_eq_true, List.isPrefixOf_iff_prefix]
  constructor
  · rintro ⟨x, hx, name, hn, start⟩
    exact ⟨name, hn, x, hx, start⟩
  · rintro ⟨name, hn, x, hx, start⟩
    exact ⟨x, hx, name, hn, start⟩

def Tells (s name : List Char) : Prop :=
  match split s with
  | .ok ts => Names ts name
  | .error _ => name <:+: s

theorem classify_eq_choose (text : String) : ∃ apple android, classify text = choose apple android ∧
    (apple ↔ ∃ name ∈ appleDevices, Tells text.toList name) ∧ (android ↔ Tells text.toList androidName) := by
  rw [classify]
  unfold Tells
  cases split text.toList with
  | error fault =>
    refine ⟨_, _, rfl, ?_, Text.contains_iff⟩
    simp only [List.any_eq_true, Text.contains_iff]
  | ok ts =>
    refine ⟨_, _, rfl, any_segments_iff, ?_⟩
    simp only [List.any_eq_true, List.isPrefixOf_iff_prefix]
    rfl

theorem classify_eq_iOS_iff {text : String} :
    classify text = .iOS ↔ ∃ name ∈ appleDevices, Tells text.toList name := by
  obtain ⟨apple, android, he, ha, -⟩ := classify_eq_choose text
  rw [he, choose_eq_iOS_iff, ha]

theorem classify_eq_desktop_iff {text : String} : classify text = .desktop ↔
    (¬ ∃ name ∈ appleDevices, Tells text.toList name) ∧ ¬ Tells text.toList androidName := by
  obtain ⟨apple, android, he, ha, hr⟩ := classify_eq_choose text
  rw [he, choose_eq_desktop_iff, ha, hr]

theorem Tells.append {s name : List Char} {ts : List Token} (accepted : split s = .ok ts) (h : Tells s name)
    (tail : List Char) : Tells (s ++ tail) name := by
  have renders := (split_eq_ok_iff.1 accepted).renders
  rw [Tells, accepted] at h
  rw [Tells]
  cases hs : split (s ++ tail) with
  | error fault => exact (renders.isInfix_of_names h).trans (List.prefix_append s tail).isInfix
  | ok us =>
    have whole := (split_eq_ok_iff.1 hs).renders.tokens_eq
    have survive := renders.survive tail
    rw [whole] at survive
    exact survive.names renders h

/-- Text after a user agent that can be split never takes the system of a phone from it, whether the whole can be split or
not. -/
theorem classify_append_keeps {ua : String} {ts : List Token} (accepted : split ua.toList = .ok ts) (tail : String) :
    (classify ua = .iOS → classify (ua ++ tail) = .iOS) ∧
      (classify ua = .android → classify (ua ++ tail) = .android ∨ classify (ua ++ tail) = .iOS) := by
  have keeps {name : List Char} (h : Tells ua.toList name) : Tells (ua ++ tail).toList name := by
    rw [String.toList_append]
    exact h.append accepted tail.toList
  have apple (h : ∃ name ∈ appleDevices, Tells ua.toList name) : ∃ name ∈ appleDevices, Tells (ua ++ tail).toList name := by
    obtain ⟨name, hn, tells⟩ := h
    exact ⟨name, hn, keeps tells⟩
  constructor
  · intro h
    rw [classify_eq_iOS_iff] at h ⊢
    exact apple h
  · intro h
    have phone : classify (ua ++ tail) ≠ .desktop := by
      intro desktop
      rw [classify_eq_desktop_iff] at desktop
      have told : classify ua = .desktop := by
        rw [classify_eq_desktop_iff]
        exact ⟨fun ha => desktop.1 (apple ha), fun hr => desktop.2 (keeps hr)⟩
      rw [told] at h
      cases h
    cases hc : classify (ua ++ tail) with
    | iOS => exact .inr rfl
    | android => exact .inl rfl
    | desktop => exact absurd hc phone

theorem classify_append_keeps_phones :
    let linux := "okhttp/4.9 (Linux; Android 14) App"
    let apple := "App/1.0 iPhone"
    split linux.toList =
        .ok [.product "okhttp/4.9".toList, .comment "Linux; Android 14".toList, .product "App".toList] ∧
      split (linux ++ "le/1.0 (iPh").toList = .error (.unbalanced 41) ∧ classify linux = .android ∧
      (classify (linux ++ "le/1.0 (iPh") = .android ∨ classify (linux ++ "le/1.0 (iPh") = .iOS) ∧
      split apple.toList = .ok [.product "App/1.0".toList, .product "iPhone".toList] ∧ classify apple = .iOS ∧
      classify (apple ++ "OS Android") = .iOS := by
  intro linux apple
  have linux_split : split linux.toList =
      .ok [.product "okhttp/4.9".toList, .comment "Linux; Android 14".toList, .product "App".toList] := by
    decide +kernel
  have apple_split : split apple.toList = .ok [.product "App/1.0".toList, .product "iPhone".toList] := by
    decide +kernel
  have linux_android : classify linux = .android := by decide +kernel
  have apple_iOS : classify apple = .iOS := by decide +kernel
  refine ⟨linux_split, by decide +kernel, linux_android, ?_, apple_split, apple_iOS, ?_⟩
  · exact (classify_append_keeps linux_split "le/1.0 (iPh").2 linux_android
  · exact (classify_append_keeps apple_split "OS Android").1 apple_iOS

end DeepLink.UserAgent
