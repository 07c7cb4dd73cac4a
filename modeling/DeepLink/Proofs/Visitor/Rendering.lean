import DeepLink.Proofs.Visitor.Depth

namespace DeepLink.UserAgent

theorem isPlain_iff {c : Char} : isPlain c ↔ Text.isBlank c = false ∧ c ≠ '(' ∧ c ≠ ')' := by
  simp [isPlain, and_assoc]

theorem unnested_of_blank {gap : List Char} (h : ∀ c ∈ gap, Text.isBlank c) : ∀ c ∈ gap, c ≠ '(' ∧ c ≠ ')' := by
  intro c hc
  have blank := h c hc
  constructor
  · rintro rfl
    cases blank
  · rintro rfl
    cases blank

structure IsProduct (text : List Char) : Prop where
  ne_nil : text ≠ []
  plain : ∀ c ∈ text, isPlain c

theorem IsProduct.unnested {text : List Char} (h : IsProduct text) : ∀ c ∈ text, c ≠ '(' ∧ c ≠ ')' :=
  fun c hc => (isPlain_iff.1 (h.plain c hc)).2

theorem IsProduct.solid {text : List Char} (h : IsProduct text) : ∀ c ∈ text, Text.isBlank c = false :=
  fun c hc => (isPlain_iff.1 (h.plain c hc)).1

/-- A text that tokens are written as. White space is free, but two products need some to stand apart. -/
inductive Renders : List Token → List Char → Prop where
  | blank {gap : List Char} (hg : ∀ c ∈ gap, Text.isBlank c) : Renders [] gap
  | product {gap text s : List Char} {ts : List Token} (hg : ∀ c ∈ gap, Text.isBlank c) (ht : IsProduct text)
      (apart : ∀ next us, ts = .product next :: us → ∃ c ∈ s.head?, Text.isBlank c) (rest : Renders ts s) :
      Renders (.product text :: ts) (gap ++ (text ++ s))
  | comment {gap inner s : List Char} {ts : List Token} (hg : ∀ c ∈ gap, Text.isBlank c) (hi : Balanced inner)
      (rest : Renders ts s) : Renders (.comment inner :: ts) (gap ++ '(' :: (inner ++ ')' :: s))

theorem tokens_nil : tokens [] = ([], []) := by rw [tokens]

theorem tokens_close (s : List Char) : tokens (')' :: s) = ([], ')' :: s) := by
  rw [tokens, if_pos rfl]

theorem tokens_comment {s inner r : List Char} (h : comment? s = some (inner, r)) : tokens ('(' :: s) =
    (.comment inner :: (tokens (Text.trimStart r)).1, (tokens (Text.trimStart r)).2) := by
  rw [tokens, if_neg (by decide), if_pos rfl]
  split
  · next found =>
    rw [h] at found
    cases found
    rfl
  · next found =>
    rw [h] at found
    cases found

theorem tokens_stuck {s : List Char} (h : comment? s = none) : tokens ('(' :: s) = ([], '(' :: s) := by
  rw [tokens, if_neg (by decide), if_pos rfl]
  split
  · next found =>
    rw [h] at found
    cases found
  · rfl

theorem tokens_cons {c : Char} (ho : c ≠ '(') (hc : c ≠ ')') (s : List Char) : tokens (c :: s) =
    (.product (c :: s.takeWhile isPlain) :: (tokens (Text.trimStart (s.dropWhile isPlain))).1,
      (tokens (Text.trimStart (s.dropWhile isPlain))).2) := by
  rw [tokens, if_neg hc, if_neg ho]

theorem tokens_product {text : List Char} (h : IsProduct text) (s : List Char) : tokens (text ++ s) =
    (.product (text ++ s.takeWhile isPlain) :: (tokens (Text.trimStart (s.dropWhile isPlain))).1,
      (tokens (Text.trimStart (s.dropWhile isPlain))).2) := by
  obtain ⟨c, text, rfl⟩ := List.exists_cons_of_ne_nil h.ne_nil
  have plain := h.plain
  rw [List.forall_mem_cons] at plain
  obtain ⟨ho, hc⟩ := h.unnested c List.mem_cons_self
  rw [List.cons_append, tokens_cons ho hc, List.takeWhile_append_of_pos plain.2, List.dropWhile_append_of_pos plain.2]
  rfl

theorem trimStart_product {text : List Char} (h : IsProduct text) (s : List Char) :
    Text.trimStart (text ++ s) = text ++ s := by
  obtain ⟨c, text, rfl⟩ := List.exists_cons_of_ne_nil h.ne_nil
  exact Text.trimStart_cons (h.solid c List.mem_cons_self) _

theorem tokens_induction {motive : List Char → Prop} (nil : motive []) (close : ∀ s, motive (')' :: s))
    (comment : ∀ s inner r, comment? s = some (inner, r) → motive (Text.trimStart r) → motive ('(' :: s))
    (stuck : ∀ s, comment? s = none → motive ('(' :: s))
    (product : ∀ c s, c ≠ '(' → c ≠ ')' → motive (Text.trimStart (s.dropWhile isPlain)) → motive (c :: s))
    (s : List Char) : motive s := by
  induction s using tokens.induct with
  | case1 => exact nil
  | case2 s => exact close s
  | case3 s inner r found _ _ _ _ _ ih => exact comment s inner r found ih
  | case4 s found => exact stuck s found
  | case5 c s hc ho _ _ _ _ ih => exact product c s ho hc ih

theorem Renders.balanced {ts : List Token} {s : List Char} (h : Renders ts s) : Balanced s := by
  induction h with
  | blank hg => exact balanced_of_forall (unnested_of_blank hg)
  | product hg ht _ _ ih =>
    apply Balanced.append (balanced_of_forall (unnested_of_blank hg))
    exact Balanced.append (balanced_of_forall ht.unnested) ih
  | comment hg hi _ ih =>
    apply Balanced.append (balanced_of_forall (unnested_of_blank hg))
    exact .pair hi ih

theorem Renders.stops {ts : List Token} {s : List Char} (h : Renders ts s)
    (apart : ∀ next us, ts = .product next :: us → ∃ c ∈ s.head?, Text.isBlank c) : ∀ c ∈ s.head?, isPlain c = false := by
  have of_blank {c : Char} (blank : Text.isBlank c) : isPlain c = false := by
    simp [isPlain, blank]
  intro c hc
  cases h with
  | blank hg => exact of_blank (hg c (List.mem_of_mem_head? hc))
  | product =>
    obtain ⟨b, hb, blank⟩ := apart _ _ rfl
    rw [Option.mem_unique hc hb]
    exact of_blank blank
  | @comment gap _ _ _ hg =>
    cases gap with
    | nil =>
      cases hc
      rfl
    | cons b gap =>
      cases hc
      exact of_blank (hg _ List.mem_cons_self)

theorem Renders.tokens_eq {ts : List Token} {s : List Char} (h : Renders ts s) : tokens (Text.trimStart s) = (ts, []) := by
  induction h with
  | @blank gap hg =>
    have none := Text.trimStart_append hg []
    rw [List.append_nil] at none
    rw [none]
    exact tokens_nil
  | @product gap text s ts hg ht apart rest ih =>
    have stops := rest.stops apart
    have whole : s.takeWhile isPlain = [] ∧ s.dropWhile isPlain = s := by
      cases s with
      | nil => exact ⟨rfl, rfl⟩
      | cons c s =>
        have hc := stops c rfl
        simp [hc]
    rw [Text.trimStart_append hg, trimStart_product ht, tokens_product ht, whole.1, whole.2, ih, List.append_nil]
  | comment hg hi _ ih =>
    rw [Text.trimStart_append hg, Text.trimStart_cons rfl, tokens_comment (comment?_eq_some_iff.2 ⟨hi, rfl⟩), ih]

theorem Renders.head_product {next : List Char} {us : List Token} {s : List Char} (h : Renders (.product next :: us) s) :
    ∃ c ∈ s.head?, Text.isBlank c ∨ isPlain c := by
  cases h with
  | @product gap _ s _ hg ht =>
    cases gap with
    | nil =>
      obtain ⟨c, next, rfl⟩ := List.exists_cons_of_ne_nil ht.ne_nil
      exact ⟨c, rfl, .inr (ht.plain c List.mem_cons_self)⟩
    | cons c gap => exact ⟨c, rfl, .inl (hg c List.mem_cons_self)⟩

theorem tokens_parts (s : List Char) : ∃ front, Renders (tokens (Text.trimStart s)).1 front ∧
    s = front ++ (tokens (Text.trimStart s)).2 ∧ Halted (tokens (Text.trimStart s)).2 := by
  have blank (s : List Char) : ∀ c ∈ s.takeWhile Text.isBlank, Text.isBlank c := by
    exact List.all_eq_true.1 List.all_takeWhile
  have parts (s : List Char) : s = s.takeWhile Text.isBlank ++ Text.trimStart s := List.takeWhile_append_dropWhile.symm
  induction hx : Text.trimStart s using tokens_induction generalizing s with
  | nil =>
    rw [tokens_nil]
    refine ⟨s.takeWhile Text.isBlank, .blank (blank s), ?_, .done⟩
    rw [← hx]
    exact parts s
  | close r =>
    rw [tokens_close]
    refine ⟨s.takeWhile Text.isBlank, .blank (blank s), ?_, .closing r⟩
    rw [← hx]
    exact parts s
  | comment t inner r found ih =>
    obtain ⟨front, renders, hr, halted⟩ := ih r rfl
    obtain ⟨hi, rfl⟩ := comment?_eq_some_iff.1 found
    rw [tokens_comment found]
    refine ⟨_, .comment (blank s) hi renders, ?_, halted⟩
    rw [List.append_assoc, List.cons_append, List.append_assoc, List.cons_append, ← hr, ← hx]
    exact parts s
  | stuck t found =>
    rw [tokens_stuck found]
    refine ⟨s.takeWhile Text.isBlank, .blank (blank s), ?_, .opening (comment?_eq_none_iff.1 found)⟩
    rw [← hx]
    exact parts s
  | product c t ho hc ih =>
    obtain ⟨front, renders, hr, halted⟩ := ih (t.dropWhile isPlain) rfl
    have hb : Text.isBlank c = false := Text.stop_dropWhile (congrArg List.head? hx)
    have hp : isPlain c := isPlain_iff.2 ⟨hb, ho, hc⟩
    rw [tokens_cons ho hc]
    have text : IsProduct (c :: t.takeWhile isPlain) := by
      refine ⟨List.cons_ne_nil _ _, ?_⟩
      rw [List.forall_mem_cons]
      exact ⟨hp, List.all_eq_true.1 List.all_takeWhile⟩
    -- what stands after a product is not plain, and so is blank where another product comes next
    have apart : ∀ next us, (tokens (Text.trimStart (t.dropWhile isPlain))).1 = .product next :: us →
        ∃ c ∈ front.head?, Text.isBlank c := by
      intro next us he
      rw [he] at renders
      obtain ⟨d, hd, blank | plain⟩ := renders.head_product
      · exact ⟨d, hd, blank⟩
      · obtain ⟨front, rfl⟩ := List.head?_eq_some_iff.1 hd
        have stop := Text.stop_dropWhile (congrArg List.head? hr)
        rw [plain] at stop
        cases stop
    refine ⟨_, .product (blank s) text apart renders, ?_, halted⟩
    rw [List.append_assoc, List.append_assoc, ← hr, List.cons_append, List.takeWhile_append_dropWhile, ← hx]
    exact parts s

end DeepLink.UserAgent
