import DeepLink.Proofs.Visitor.Rendering

/-!
How a user agent is judged: too deep, else split into the tokens that it is a rendering of, else faulty at its first
parenthesis without a partner.
-/

namespace DeepLink.UserAgent

theorem Halted.unmatched {p q : List Char} (h : Halted q) (hp : Balanced p) (hq : q ≠ []) : Unmatched p q := by
  cases h with
  | done => exact absurd rfl hq
  | closing r =>
    apply Unmatched.closing
    rintro a b rfl hb
    -- the opening parenthesis and what is balanced leave the depth above where it was
    have depth := hp.foldl_nest 0
    rw [List.foldl_append, List.foldl_cons, hb.foldl_nest] at depth
    cases depth
  | opening h => exact .opening h

def FirstUnmatchedAt (s : List Char) (place : Nat) : Prop :=
  ∃ p q, s = p ++ q ∧ Unmatched p q ∧ (∀ p' q', s = p' ++ q' → Unmatched p' q' → p.length ≤ p'.length) ∧
    place = Utf8.size p

theorem firstUnmatchedAt_of_balanced {p q : List Char} (hp : Balanced p) (h : Unmatched p q) :
    FirstUnmatchedAt (p ++ q) (Utf8.size p) := by
  refine ⟨p, q, rfl, h, ?_, rfl⟩
  intro p' q' hs hu
  apply Nat.le_of_not_lt
  intro short
  rcases List.append_eq_append_iff.1 hs with ⟨m, rfl, rfl⟩ | ⟨m, rfl, rfl⟩
  · rw [List.length_append] at short
    omega
  · cases m with
    | nil =>
      rw [List.append_nil] at short
      exact Nat.lt_irrefl _ short
    | cons c m => exact hp.matched rfl hu.of_append_cons

theorem FirstUnmatchedAt.unique {s : List Char} {n m : Nat} (h : FirstUnmatchedAt s n) (h' : FirstUnmatchedAt s m) :
    n = m := by
  obtain ⟨p, q, hs, hu, first, rfl⟩ := h
  obtain ⟨p', q', hs', hu', first', rfl⟩ := h'
  have length : p.length = p'.length := Nat.le_antisymm (first p' q' hs' hu') (first' p q hs hu)
  rw [(List.append_inj (hs.symm.trans hs') length).1]

theorem FirstUnmatchedAt.not_balanced {s : List Char} {n : Nat} (h : FirstUnmatchedAt s n) : ¬ Balanced s := by
  obtain ⟨p, q, hs, hu, -⟩ := h
  intro balanced
  exact balanced.matched hs hu

theorem exceedsAt_iff {s : List Char} {n : Nat} : ExceedsAt 0 s n ↔ tooDeep? 0 0 s = some n := by
  rw [tooDeep?_eq_some_iff (Nat.zero_le _)]
  simp

theorem ExceedsAt.not_within {s : List Char} {n : Nat} (h : ExceedsAt 0 s n) : ¬ Within 0 s := by
  rw [← tooDeep?_eq_none_iff (Nat.zero_le _) 0, exceedsAt_iff.1 h]
  nofun

theorem exists_exceedsAt {s : List Char} (h : ¬ Within 0 s) : ∃ n, ExceedsAt 0 s n := by
  rw [← tooDeep?_eq_none_iff (Nat.zero_le _) 0] at h
  obtain ⟨n, hn⟩ := Option.ne_none_iff_exists'.1 h
  exact ⟨n, exceedsAt_iff.2 hn⟩

inductive Verdict (s : List Char) : Except Fault (List Token) → Prop where
  | tooDeep {n : Nat} (exceeds : ExceedsAt 0 s n) : Verdict s (.error (.tooDeep n))
  | read {ts : List Token} (within : Within 0 s) (renders : Renders ts s) : Verdict s (.ok ts)
  | unbalanced {n : Nat} (within : Within 0 s) (unmatched : FirstUnmatchedAt s n) : Verdict s (.error (.unbalanced n))

theorem Verdict.unique {s : List Char} {x y : Except Fault (List Token)} (h : Verdict s x) (h' : Verdict s y) :
    x = y := by
  cases h with
  | tooDeep exceeds =>
    cases h' with
    | tooDeep exceeds' =>
      have same := (exceedsAt_iff.1 exceeds).symm.trans (exceedsAt_iff.1 exceeds')
      rw [Option.some.inj same]
    | read within => exact absurd within exceeds.not_within
    | unbalanced within => exact absurd within exceeds.not_within
  | read within renders =>
    cases h' with
    | tooDeep exceeds => exact absurd within exceeds.not_within
    | read _ renders' =>
      have same := renders.tokens_eq.symm.trans renders'.tokens_eq
      rw [(Prod.mk.inj same).1]
    | unbalanced _ unmatched => exact absurd renders.balanced unmatched.not_balanced
  | unbalanced within unmatched =>
    cases h' with
    | tooDeep exceeds => exact absurd within exceeds.not_within
    | read _ renders => exact absurd renders.balanced unmatched.not_balanced
    | unbalanced _ unmatched' => rw [unmatched.unique unmatched']

theorem split_verdict (s : List Char) : Verdict s (split s) := by
  rw [UserAgent.split]
  cases hd : tooDeep? 0 0 s with
  | some n => exact .tooDeep (exceedsAt_iff.2 hd)
  | none =>
    have within := (tooDeep?_eq_none_iff (Nat.zero_le _) 0 s).1 hd
    obtain ⟨front, renders, hs, halted⟩ := tokens_parts s
    rcases ht : tokens (Text.trimStart s) with ⟨ts, rest⟩
    rw [ht] at renders hs halted
    cases rest with
    | nil =>
      rw [List.append_nil] at hs
      exact .read within (hs ▸ renders)
    | cons c rest =>
      have place : Utf8.size s - Utf8.size (c :: rest) = Utf8.size front := by
        rw [hs, Utf8.size_append]
        exact Nat.add_sub_cancel _ _
      have unmatched := halted.unmatched renders.balanced (List.cons_ne_nil c rest)
      dsimp only
      rw [place]
      apply Verdict.unbalanced within
      rw [hs]
      exact firstUnmatchedAt_of_balanced renders.balanced unmatched

theorem split_eq_iff {s : List Char} {x : Except Fault (List Token)} : split s = x ↔ Verdict s x := by
  constructor
  · rintro rfl
    exact split_verdict s
  · exact (split_verdict s).unique

/-- A text is split just if its parentheses match and are nowhere too deep. If they are too deep somewhere, the fault is the
first place where they are, matched or not; else it is the first parenthesis without a partner. -/
theorem split_decides (s : List Char) :
    ((∃ n, split s = .error (.tooDeep n)) ↔ ∃ q, q <+: s ∧ depthLimit < depth q) ∧
    (∀ n, split s = .error (.tooDeep n) ↔ ∃ p r, s = p ++ '(' :: r ∧ (∀ q, q <+: p → depth q ≤ depthLimit) ∧
      depthLimit < depth (p ++ ['(']) ∧ n = Utf8.size p) ∧
    ((∃ ts, split s = .ok ts) ↔ (∀ q, q <+: s → depth q ≤ depthLimit) ∧ Balanced s) ∧
    ∀ n, split s = .error (.unbalanced n) ↔ (∀ q, q <+: s → depth q ≤ depthLimit) ∧ ¬ Balanced s ∧
      FirstUnmatchedAt s n := by
  simp only [split_eq_iff]
  refine ⟨?_, ?_, ?_, ?_⟩
  · constructor
    · rintro ⟨n, h⟩
      cases h with
      | tooDeep exceeds =>
        obtain ⟨p, r, rfl, -, beyond, -⟩ := exceeds
        exact ⟨p ++ ['('], ⟨r, List.append_assoc p _ r⟩, beyond⟩
    · rintro ⟨q, hq, beyond⟩
      obtain ⟨n, exceeds⟩ := exists_exceedsAt fun within => Nat.not_lt_of_le (within q hq) beyond
      exact ⟨n, .tooDeep exceeds⟩
  · intro n
    constructor
    · intro h
      cases h with
      | tooDeep exceeds => exact exceeds
    · exact .tooDeep
  · constructor
    · rintro ⟨ts, h⟩
      cases h with
      | read within renders => exact ⟨within, renders.balanced⟩
    · rintro ⟨within, balanced⟩
      have verdict := split_verdict s
      generalize split s = x at verdict
      cases verdict with
      | tooDeep exceeds => exact absurd within exceeds.not_within
      | read _ renders => exact ⟨_, .read within renders⟩
      | unbalanced _ unmatched => exact absurd balanced unmatched.not_balanced
  · intro n
    constructor
    · intro h
      cases h with
      | unbalanced within unmatched => exact ⟨within, unmatched.not_balanced, unmatched⟩
    · rintro ⟨within, -, unmatched⟩
      exact .unbalanced within unmatched

theorem within_after {s : List Char} (hs : ∀ c ∈ s, c ≠ '(' ∧ c ≠ ')') (t : List Char) :
    Within 0 (s ++ t) ↔ Within 0 t := by
  rw [within_append, (balanced_of_forall hs).foldl_nest, and_iff_right]
  exact within_of_forall hs (Nat.zero_le _)

theorem Renders.within_iff {ts : List Token} {s : List Char} (h : Renders ts s) :
    Within 0 s ↔ ∀ inner, .comment inner ∈ ts → Within 0 ('(' :: (inner ++ [')'])) := by
  induction h with
  | @blank gap hg =>
    apply iff_of_true
    · exact within_of_forall (unnested_of_blank hg) (Nat.zero_le _)
    · exact nofun
  | product hg ht _ _ ih =>
    rw [within_after (unnested_of_blank hg), within_after ht.unnested, ih]
    simp
  | @comment gap inner s ts hg hi _ ih =>
    have whole : '(' :: (inner ++ ')' :: s) = '(' :: (inner ++ [')']) ++ s := by simp
    have level : ('(' :: (inner ++ [')'])).foldl nest 0 = 0 := (Balanced.pair hi .nil).foldl_nest 0
    rw [within_after (unnested_of_blank hg), whole, within_append, level, ih]
    simp

structure Rendering (ts : List Token) (s : List Char) : Prop where
  renders : Renders ts s
  shallow : ∀ inner, .comment inner ∈ ts → ∀ q, q <+: '(' :: (inner ++ [')']) → depth q ≤ depthLimit

theorem split_eq_ok_iff {s : List Char} {ts : List Token} : split s = .ok ts ↔ Rendering ts s := by
  rw [split_eq_iff]
  constructor
  · intro h
    cases h with
    | read within renders => exact ⟨renders, renders.within_iff.1 within⟩
  · rintro ⟨renders, shallow⟩
    exact .read (renders.within_iff.2 shallow) renders

def parts (ts : List Token) : List (List Char) × List (List Char) := (products ts, comments ts)

/-- A rendering is split into the tokens that it was written from, and what is split is a rendering of nothing else. -/
theorem split_inverts_rendering (s : List Char) :
    (∀ ts, split s = .ok ts ↔ Rendering ts s) ∧
    ∀ ps cs, (split s).map parts = .ok (ps, cs) ↔
      ∃ ts, Rendering ts s ∧ (∀ us, Rendering us s → us = ts) ∧ products ts = ps ∧ comments ts = cs := by
  simp only [← split_eq_ok_iff, implies_true, true_and]
  intro ps cs
  cases split s with
  | error fault =>
    apply iff_of_false nofun
    rintro ⟨ts, h, -⟩
    cases h
  | ok ts =>
    constructor
    · intro h
      rw [Except.map, Except.ok.injEq, parts, Prod.mk.injEq] at h
      exact ⟨ts, rfl, fun us hu => (Except.ok.inj hu).symm, h⟩
    · rintro ⟨us, hu, -, rfl, rfl⟩
      rw [Except.ok.inj hu]
      rfl

end DeepLink.UserAgent
