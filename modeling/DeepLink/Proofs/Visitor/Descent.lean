import DeepLink.Proofs.Visitor.Rendering

/-!
How many comments are open at once while a text is read. A reading can be held to a limit, and then it does not go into a
comment inside that many. Without a limit it is never inside more comments than the text is deep, so the limit changes
nothing for a text that is nowhere too deep.
-/

namespace DeepLink.UserAgent

def mayOpen (limit : Option Nat) (level : Nat) : Bool := limit.all (level < ·)

theorem mayOpen_some {limit level : Nat} : mayOpen (some limit) level ↔ level < limit := by
  rw [mayOpen, Option.all_some, decide_eq_true_iff]

/-- What a reading of the inside of a comment leaves of a text, and how many comments were open after each parenthesis
that it went past as an opening one, closed later or not. -/
structure Descent where
  rest : List Char
  levels : List Nat
deriving DecidableEq, Repr

def descend (limit : Option Nat) (level : Nat) : (s : List Char) → { d : Descent // d.rest.length ≤ s.length }
  | [] => ⟨⟨[], []⟩, Nat.le_refl _⟩
  | c :: s =>
    if c = ')' then ⟨⟨c :: s, []⟩, Nat.le_refl _⟩
    else if c = '(' then
      if mayOpen limit level then
        let inner := descend limit (level + 1) s
        match h : afterClose? inner.1.rest with
        | some r =>
          have : r.length < s.length + 1 :=
            Nat.lt_succ_of_lt (Nat.lt_of_lt_of_le (afterClose?_length_lt h) inner.2)
          let after := descend limit level r
          ⟨⟨after.1.rest, (level + 1) :: (inner.1.levels ++ after.1.levels)⟩,
            Nat.le_trans after.2 (Nat.le_of_lt this)⟩
        | none => ⟨⟨c :: s, (level + 1) :: inner.1.levels⟩, Nat.le_refl _⟩
      else ⟨⟨c :: s, []⟩, Nat.le_refl _⟩
    else
      let after := descend limit level s
      ⟨after.1, Nat.le_succ_of_le after.2⟩
termination_by s => s.length
decreasing_by all_goals simp only [List.length_cons]; omega

def descent (limit : Option Nat) (level : Nat) (s : List Char) : Descent := (descend limit level s).1

def commentWithin? (limit : Option Nat) (s : List Char) : Option (List Char × List Char) :=
  (afterClose? (descent limit 1 s).rest).map fun r => (s.take (s.length - (r.length + 1)), r)

theorem commentWithin?_length_lt {limit : Option Nat} {s inner r : List Char}
    (h : commentWithin? limit s = some (inner, r)) : r.length < s.length := by
  obtain ⟨t, ht, e⟩ := Option.map_eq_some_iff.1 h
  obtain rfl : t = r := congrArg Prod.snd e
  exact Nat.lt_of_lt_of_le (afterClose?_length_lt ht) (descend limit 1 s).2

structure Reading where
  tokens : List Token
  rest : List Char
  levels : List Nat
deriving DecidableEq, Repr

def Reading.result (x : Reading) : List Token × List Char := (x.tokens, x.rest)

def read (limit : Option Nat) : List Char → Reading
  | [] => ⟨[], [], []⟩
  | c :: s =>
    if c = ')' then ⟨[], c :: s, []⟩
    else if c = '(' then
      if mayOpen limit 0 then
        match h : commentWithin? limit s with
        | some (inner, r) =>
          have : (Text.trimStart r).length < s.length + 1 :=
            Nat.lt_succ_of_le (Nat.le_trans (Text.trimStart_length_le r) (Nat.le_of_lt (commentWithin?_length_lt h)))
          let next := read limit (Text.trimStart r)
          ⟨.comment inner :: next.tokens, next.rest, 1 :: ((descent limit 1 s).levels ++ next.levels)⟩
        | none => ⟨[], c :: s, 1 :: (descent limit 1 s).levels⟩
      else ⟨[], c :: s, []⟩
    else
      have : (Text.trimStart (s.dropWhile isPlain)).length < s.length + 1 :=
        Nat.lt_succ_of_le (Nat.le_trans (Text.trimStart_length_le _) (List.dropWhile_sublist _).length_le)
      let next := read limit (Text.trimStart (s.dropWhile isPlain))
      ⟨.product (c :: s.takeWhile isPlain) :: next.tokens, next.rest, next.levels⟩
termination_by s => s.length

section

variable {limit : Option Nat} {level : Nat}

theorem descent_nil : descent limit level [] = ⟨[], []⟩ := by
  rw [descent, descend]

theorem descent_close (s : List Char) : descent limit level (')' :: s) = ⟨')' :: s, []⟩ := by
  simp [descent, descend]

theorem descent_plain {c : Char} (ho : c ≠ '(') (hc : c ≠ ')') (s : List Char) :
    descent limit level (c :: s) = descent limit level s := by
  simp [descent, descend, ho, hc]

theorem descent_refused (full : ¬mayOpen limit level) (s : List Char) :
    descent limit level ('(' :: s) = ⟨'(' :: s, []⟩ := by
  simp [descent, descend, full]

theorem descent_closed (room : mayOpen limit level) {s r : List Char} (h : (descent limit (level + 1) s).rest = ')' :: r) :
    descent limit level ('(' :: s) = ⟨(descent limit level r).rest,
      (level + 1) :: ((descent limit (level + 1) s).levels ++ (descent limit level r).levels)⟩ := by
  unfold descent at h ⊢
  rw [descend]
  simp only [show ('(' : Char) ≠ ')' by decide, if_false, if_true, room]
  split
  · next t ht =>
    rw [afterClose?_eq_some_iff.2 h, Option.some.injEq] at ht
    rw [ht]
  · next hn => simp [afterClose?_eq_some_iff.2 h] at hn

theorem descent_unclosed (room : mayOpen limit level) {s : List Char}
    (h : ∀ r, (descent limit (level + 1) s).rest ≠ ')' :: r) :
    descent limit level ('(' :: s) = ⟨'(' :: s, (level + 1) :: (descent limit (level + 1) s).levels⟩ := by
  unfold descent at h ⊢
  rw [descend]
  simp only [show ('(' : Char) ≠ ')' by decide, if_false, if_true, room]
  split
  · next r hr => exact absurd (afterClose?_eq_some_iff.1 hr) (h r)
  · rfl

end

theorem descent_rest (level : Nat) (s : List Char) : (descent none level s).rest = afterInner s := by
  induction s using afterInner_induction generalizing level with
  | nil => rw [descent_nil, afterInner_nil]
  | close s => rw [descent_close, afterInner_close]
  | closed s r hr ih ihr => rw [descent_closed rfl ((ih (level + 1)).trans hr), ihr, afterInner_open hr]
  | unclosed s stuck ih =>
    rw [afterInner_stuck stuck]
    rw [← ih (level + 1)] at stuck
    rw [descent_unclosed rfl stuck]
  | plain c s ho hc ih => rw [descent_plain ho hc, afterInner_plain ho hc, ih]

theorem descent_limited {limit level : Nat} {s : List Char} (h : ∀ k ∈ (descent none level s).levels, k ≤ limit) :
    descent (some limit) level s = descent none level s := by
  induction s using afterInner_induction generalizing level with
  | nil => rw [descent_nil, descent_nil]
  | close s => rw [descent_close, descent_close]
  | closed s r hr ih ihr =>
    rw [← descent_rest (level + 1)] at hr
    rw [descent_closed rfl hr] at h ⊢
    rw [List.forall_mem_cons, List.forall_mem_append] at h
    obtain ⟨here, inside, after⟩ := h
    have same := ih inside
    rw [descent_closed (mayOpen_some.2 here) (same ▸ hr), same, ihr after]
  | unclosed s stuck ih =>
    rw [← descent_rest (level + 1)] at stuck
    rw [descent_unclosed rfl stuck] at h ⊢
    rw [List.forall_mem_cons] at h
    have same := ih h.2
    rw [descent_unclosed (mayOpen_some.2 h.1) (same ▸ stuck), same]
  | plain c s ho hc ih =>
    rw [descent_plain ho hc] at h ⊢
    rw [descent_plain ho hc, ih h]

theorem descent_levels_le {limit level : Nat} {s : List Char} : ∀ k ∈ (descent (some limit) level s).levels, k ≤ limit := by
  induction level, s using descend.induct (some limit) with
  | case1 level =>
    rw [descent_nil]
    exact nofun
  | case2 level s =>
    rw [descent_close]
    exact nofun
  | case3 level s room inner r closed _ _ ih ihr =>
    rw [descent_closed room (afterClose?_eq_some_iff.1 closed), List.forall_mem_cons, List.forall_mem_append]
    exact ⟨mayOpen_some.1 room, ih, ihr⟩
  | case4 level s room inner unclosed _ ih =>
    rw [descent_unclosed room ?_, List.forall_mem_cons]
    · exact ⟨mayOpen_some.1 room, ih⟩
    · intro r hr
      have closed : afterClose? inner.1.rest = some r := afterClose?_eq_some_iff.2 hr
      rw [unclosed] at closed
      cases closed
  | case5 level s full =>
    rw [descent_refused full]
    exact nofun
  | case6 level c s hc ho ih =>
    rw [descent_plain ho hc]
    exact ih

def GoesTo (d : Nat) (s : List Char) (k : Nat) : Prop := ∃ p t, s = p ++ '(' :: t ∧ (p ++ ['(']).foldl nest d = k

namespace GoesTo

variable {d k : Nat} {s t : List Char}

theorem here (d : Nat) (s : List Char) : GoesTo d ('(' :: s) (d + 1) := ⟨[], s, rfl, rfl⟩

theorem after (x : List Char) (h : GoesTo (x.foldl nest d) t k) : GoesTo d (x ++ t) k := by
  obtain ⟨p, r, rfl, rfl⟩ := h
  refine ⟨x ++ p, r, (List.append_assoc x p _).symm, ?_⟩
  rw [List.append_assoc, List.foldl_append]

theorem inside (h : GoesTo (d + 1) s k) : GoesTo d ('(' :: s) k := after ['('] h

theorem after_balanced {x : List Char} (balanced : Balanced x) (h : GoesTo d t k) : GoesTo d (x ++ t) k := by
  apply after
  rw [balanced.foldl_nest]
  exact h

theorem after_comment {inner : List Char} (balanced : Balanced inner) (h : GoesTo d t k) :
    GoesTo d ('(' :: (inner ++ ')' :: t)) k := by
  have whole : '(' :: (inner ++ ')' :: t) = '(' :: (inner ++ [')']) ++ t := by simp
  rw [whole]
  exact after_balanced (.pair balanced .nil) h

theorem of_trimStart (h : GoesTo d (Text.trimStart s) k) : GoesTo d s k := by
  have blank : ∀ c ∈ s.takeWhile Text.isBlank, Text.isBlank c := List.all_eq_true.1 List.all_takeWhile
  rw [← List.takeWhile_append_dropWhile (p := Text.isBlank) (l := s)]
  exact after_balanced (balanced_of_forall (unnested_of_blank blank)) h

theorem le (h : GoesTo d s k) (within : Within d s) : k ≤ depthLimit := by
  obtain ⟨p, t, rfl, rfl⟩ := h
  exact within _ ⟨t, List.append_assoc p _ t⟩

end GoesTo

theorem goesTo_of_mem_descent {level k : Nat} {s : List Char} (h : k ∈ (descent none level s).levels) :
    GoesTo level s k := by
  induction s using afterInner_induction generalizing level with
  | nil =>
    rw [descent_nil] at h
    cases h
  | close s =>
    rw [descent_close] at h
    cases h
  | closed s r hr ih ihr =>
    obtain ⟨a, balanced, hs, -⟩ := afterInner_parts s
    rw [descent_closed rfl ((descent_rest (level + 1) s).trans hr), List.mem_cons, List.mem_append] at h
    rcases h with rfl | inside | after
    · exact .here level s
    · exact (ih inside).inside
    · rw [hs, hr]
      exact (ihr after).after_comment balanced
  | unclosed s stuck ih =>
    rw [← descent_rest (level + 1)] at stuck
    rw [descent_unclosed rfl stuck, List.mem_cons] at h
    rcases h with rfl | inside
    · exact .here level s
    · exact (ih inside).inside
  | plain c s ho hc ih =>
    rw [descent_plain ho hc] at h
    exact (ih h).after_balanced (.plain ho hc .nil)

section

variable {limit : Option Nat}

theorem read_nil : read limit [] = ⟨[], [], []⟩ := by rw [read]

theorem read_close (s : List Char) : read limit (')' :: s) = ⟨[], ')' :: s, []⟩ := by
  rw [read, if_pos rfl]

theorem read_refused (full : ¬mayOpen limit 0) (s : List Char) : read limit ('(' :: s) = ⟨[], '(' :: s, []⟩ := by
  rw [read, if_neg (by decide), if_pos rfl, if_neg full]

theorem read_comment (room : mayOpen limit 0) {s inner r : List Char} (h : commentWithin? limit s = some (inner, r)) :
    read limit ('(' :: s) = ⟨.comment inner :: (read limit (Text.trimStart r)).tokens, (read limit (Text.trimStart r)).rest,
      1 :: ((descent limit 1 s).levels ++ (read limit (Text.trimStart r)).levels)⟩ := by
  rw [read, if_neg (by decide), if_pos rfl, if_pos room]
  split
  · next found =>
    rw [h] at found
    cases found
    rfl
  · next found =>
    rw [h] at found
    cases found

theorem read_stuck (room : mayOpen limit 0) {s : List Char} (h : commentWithin? limit s = none) :
    read limit ('(' :: s) = ⟨[], '(' :: s, 1 :: (descent limit 1 s).levels⟩ := by
  rw [read, if_neg (by decide), if_pos rfl, if_pos room]
  split
  · next found =>
    rw [h] at found
    cases found
  · rfl

theorem read_product {c : Char} (ho : c ≠ '(') (hc : c ≠ ')') (s : List Char) : read limit (c :: s) =
    ⟨.product (c :: s.takeWhile isPlain) :: (read limit (Text.trimStart (s.dropWhile isPlain))).tokens,
      (read limit (Text.trimStart (s.dropWhile isPlain))).rest,
      (read limit (Text.trimStart (s.dropWhile isPlain))).levels⟩ := by
  rw [read, if_neg hc, if_neg ho]

end

theorem commentWithin?_none (s : List Char) : commentWithin? none s = comment? s := by
  rw [commentWithin?, descent_rest, comment?]

theorem commentWithin?_limited {limit : Nat} {s : List Char} (h : ∀ k ∈ (descent none 1 s).levels, k ≤ limit) :
    commentWithin? (some limit) s = comment? s := by
  rw [← commentWithin?_none, commentWithin?, descent_limited h]
  rfl

theorem result_read (s : List Char) : (read none s).result = tokens s := by
  induction s using tokens_induction with
  | nil => rw [read_nil, tokens_nil, Reading.result]
  | close s => rw [read_close, tokens_close, Reading.result]
  | comment s inner r found ih =>
    rw [read_comment rfl ((commentWithin?_none s).trans found), tokens_comment found, ← ih]
    rfl
  | stuck s found =>
    rw [read_stuck rfl ((commentWithin?_none s).trans found), tokens_stuck found, Reading.result]
  | product c s ho hc ih =>
    rw [read_product ho hc, tokens_cons ho hc, ← ih]
    rfl

theorem read_levels_le {limit : Nat} {s : List Char} : ∀ k ∈ (read (some limit) s).levels, k ≤ limit := by
  induction s using read.induct (some limit) with
  | case1 =>
    rw [read_nil]
    exact nofun
  | case2 s =>
    rw [read_close]
    exact nofun
  | case3 s room inner r found _ _ ih =>
    rw [read_comment room found, List.forall_mem_cons, List.forall_mem_append]
    exact ⟨mayOpen_some.1 room, descent_levels_le, ih⟩
  | case4 s room found =>
    rw [read_stuck room found, List.forall_mem_cons]
    exact ⟨mayOpen_some.1 room, descent_levels_le⟩
  | case5 s full =>
    rw [read_refused full]
    exact nofun
  | case6 c s hc ho _ ih =>
    rw [read_product ho hc]
    exact ih

theorem read_limited {limit : Nat} {s : List Char} (h : ∀ k ∈ (read none s).levels, k ≤ limit) :
    read (some limit) s = read none s := by
  induction s using tokens_induction with
  | nil => rw [read_nil, read_nil]
  | close s => rw [read_close, read_close]
  | comment s inner r found ih =>
    rw [read_comment rfl ((commentWithin?_none s).trans found)] at h ⊢
    rw [List.forall_mem_cons, List.forall_mem_append] at h
    obtain ⟨here, inside, after⟩ := h
    rw [read_comment (mayOpen_some.2 here) ((commentWithin?_limited inside).trans found), descent_limited inside,
      ih after]
  | stuck s found =>
    rw [read_stuck rfl ((commentWithin?_none s).trans found)] at h ⊢
    rw [List.forall_mem_cons] at h
    rw [read_stuck (mayOpen_some.2 h.1) ((commentWithin?_limited h.2).trans found), descent_limited h.2]
  | product c s ho hc ih =>
    rw [read_product ho hc] at h ⊢
    rw [read_product ho hc, ih h]

theorem read_limited_iff {limit : Nat} {s : List Char} :
    read (some limit) s = read none s ↔ ∀ k ∈ (read none s).levels, k ≤ limit := by
  constructor
  · intro same
    rw [← same]
    exact read_levels_le
  · exact read_limited

example : read (some 1) "(a) ((b))".toList ≠ read none "(a) ((b))".toList := by decide +kernel

theorem goesTo_of_mem_read {k : Nat} {s : List Char} (h : k ∈ (read none s).levels) : GoesTo 0 s k := by
  induction s using tokens_induction with
  | nil =>
    rw [read_nil] at h
    cases h
  | close s =>
    rw [read_close] at h
    cases h
  | comment s inner r found ih =>
    obtain ⟨balanced, rfl⟩ := comment?_eq_some_iff.1 found
    rw [read_comment rfl ((commentWithin?_none _).trans found), List.mem_cons, List.mem_append] at h
    rcases h with rfl | inside | after
    · exact .here 0 _
    · exact (goesTo_of_mem_descent inside).inside
    · exact (ih after).of_trimStart.after_comment balanced
  | stuck s found =>
    rw [read_stuck rfl ((commentWithin?_none s).trans found), List.mem_cons] at h
    rcases h with rfl | inside
    · exact .here 0 s
    · exact (goesTo_of_mem_descent inside).inside
  | product c s ho hc ih =>
    rw [read_product ho hc] at h
    have balanced : Balanced (c :: s.takeWhile isPlain) := by
      apply Balanced.plain ho hc
      apply balanced_of_forall
      intro d hd
      exact (isPlain_iff.1 (List.all_eq_true.1 List.all_takeWhile d hd)).2
    have whole : c :: s = (c :: s.takeWhile isPlain) ++ s.dropWhile isPlain := by simp
    rw [whole]
    exact (ih h).of_trimStart.after_balanced balanced

/-- A text that the scan lets pass is read alike with the limit of the scan and without one, up to the same place, whether
its parentheses match or not. No more comments are ever open at once, those included that turn out not to be closed. -/
theorem shallow_read_alike {s : List Char} (h : tooDeep? 0 0 s = none) :
    (read (some depthLimit) (Text.trimStart s)).result = tokens (Text.trimStart s) ∧
      (read none (Text.trimStart s)).result = tokens (Text.trimStart s) ∧
      ∀ k ∈ (read none (Text.trimStart s)).levels, k ≤ depthLimit := by
  have within : Within 0 s := (tooDeep?_eq_none_iff (Nat.zero_le _) 0 s).1 h
  have levels : ∀ k ∈ (read none (Text.trimStart s)).levels, k ≤ depthLimit := by
    intro k hk
    exact (goesTo_of_mem_read hk).of_trimStart.le within
  have same := read_limited_iff.2 levels
  exact ⟨(congrArg Reading.result same).trans (result_read _), result_read _, levels⟩

def brim : List Char := "App/1.0 (a)".toList ++ List.replicate depthLimit '('

theorem shallow_read_alike_brim :
    tooDeep? 0 0 brim = none ∧ depthLimit ∈ (read none (Text.trimStart brim)).levels ∧
      (read (some depthLimit) (Text.trimStart brim)).result = tokens (Text.trimStart brim) ∧
      ∀ k ∈ (read none (Text.trimStart brim)).levels, k ≤ depthLimit := by
  have passed : tooDeep? 0 0 brim = none := by decide +kernel
  have reached : depthLimit ∈ (read none (Text.trimStart brim)).levels := by decide +kernel
  obtain ⟨alike, -, levels⟩ := shallow_read_alike passed
  exact ⟨passed, reached, alike, levels⟩

end DeepLink.UserAgent
