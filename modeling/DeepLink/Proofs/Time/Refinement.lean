import DeepLink.Proofs.Time.Stamp

/-!
Whatever the reader of standard timestamps takes, the relaxed reader takes as the same timestamp: each part
that the one reads at the beginning of a text, the other reads there too, with the same rest.
-/

namespace DeepLink

namespace Stamp

def Refines {α : Type} (narrow wide : List Char → Option α) : Prop := ∀ s a, narrow s = some a → wide s = some a

theorem Refines.trimmed {α : Type} {narrow wide : List Char → Option α} (h : Refines narrow wide)
    (solid : ∀ c s a, narrow (c :: s) = some a → Text.isBlank c = false) (empty : narrow [] = none) :
    Refines narrow fun s => wide (Text.trimStart s) := by
  intro s a hs
  cases s with
  | nil =>
    rw [empty] at hs
    cases hs
  | cons c s =>
    have hc := solid c s a hs
    show wide (Text.trimStart (c :: s)) = some a
    rw [Text.trimStart_cons hc]
    exact h _ _ hs

theorem fixed?_eq_some_iff {width n : Nat} {s r : List Char} : fixed? width s = some (n, r) ↔
    (s.take width).length = width ∧ (s.take width).all Char.isDigit ∧ n = numberOf (s.take width) ∧
      r = s.drop width := by
  unfold fixed?
  dsimp only
  split
  · next h =>
    rw [Option.some.injEq, Prod.mk.injEq]
    constructor
    · rintro ⟨rfl, rfl⟩
      exact ⟨h.1, h.2, rfl, rfl⟩
    · rintro ⟨-, -, rfl, rfl⟩
      exact ⟨rfl, rfl⟩
  · next h =>
    refine iff_of_false nofun ?_
    rintro ⟨hl, hd, -⟩
    exact h ⟨hl, hd⟩

theorem isDigit_of_fixed? {width n : Nat} {c : Char} {s r : List Char} (h : fixed? (width + 1) (c :: s) = some (n, r)) :
    c.isDigit := by
  obtain ⟨-, digits, -⟩ := fixed?_eq_some_iff.1 h
  rw [List.take_succ_cons, List.all_cons, Bool.and_eq_true] at digits
  exact digits.1

theorem fixed?_nil (width : Nat) : fixed? (width + 1) [] = none := by simp [fixed?]

theorem short?_of_fixed? (width : Nat) : Refines (fixed? (width + 1)) (short? (width + 1)) := by
  rintro s ⟨n, r⟩ h
  obtain ⟨length, digits, rfl, rfl⟩ := fixed?_eq_some_iff.1 h
  have all : (s.take (width + 1)).takeWhile Char.isDigit = s.take (width + 1) :=
    List.takeWhile_eq_self_iff.2 (List.all_eq_true.1 digits)
  have some_digit : (s.take (width + 1)).isEmpty = false := by
    rw [List.isEmpty_eq_false_iff, ← List.length_pos_iff, length]
    exact Nat.succ_pos _
  simp only [short?, all, some_digit, Bool.false_eq_true, ↓reduceIte, length]

theorem solid_of_fixed? {width : Nat} (c : Char) (s : List Char) (a : Nat × List Char)
    (h : fixed? (width + 1) (c :: s) = some a) : Text.isBlank c = false := by
  obtain ⟨n, r⟩ := a
  exact Text.isBlank_of_isDigit (isDigit_of_fixed? h)

theorem spaced?_of_fixed? : Refines (fixed? 2) spaced? :=
  (short?_of_fixed? 1).trimmed solid_of_fixed? (fixed?_nil 1)

theorem year?_of_fixed? {s r : List Char} {n : Nat} (h : fixed? 4 s = some (n, r)) :
    year? (Text.trimStart s) = some ((n : Int), r) := by
  cases s with
  | nil =>
    rw [fixed?_nil] at h
    cases h
  | cons c s =>
    have hd := isDigit_of_fixed? h
    rw [Text.trimStart_cons (Text.isBlank_of_isDigit hd)]
    unfold year?
    split
    · simp_all
    · simp_all
    · rw [short?_of_fixed? 3 _ _ h, Option.map_some]

theorem after?_eq_some_iff {c : Char} {s r : List Char} : after? c s = some r ↔ s = c :: r := by
  cases s with
  | nil => simp [after?]
  | cons x s =>
    rw [after?, List.cons.injEq]
    by_cases h : x = c <;> simp [h]

theorem spacedAfter?_of_after? {c : Char} (h : Text.isBlank c = false) : Refines (after? c) (spacedAfter? c) := by
  intro s r hs
  rw [after?_eq_some_iff.1 hs]
  exact spacedAfter?_self h r

theorem colons_of_after? {s r : List Char} {a : Nat × List Char} (h : after? ':' s = some r)
    (digits : fixed? 2 r = some a) : colons s = r := by
  rw [after?_eq_some_iff.1 h, colons, List.dropWhile_cons_of_pos (by decide)]
  cases r with
  | nil => rfl
  | cons c r =>
    have hd : c.isDigit := isDigit_of_fixed? (r := a.2) (n := a.1) digits
    have colon : c ≠ ':' := by
      rintro rfl
      simp at hd
    rw [List.dropWhile_cons_of_neg]
    simp [colon, Text.isBlank_of_isDigit hd]

theorem offset?_colons : Refines (offset? (after? ':')) (offset? (some ∘ colons)) := by
  intro s a h
  unfold offset? at h ⊢
  split
  · simpa using h
  · simpa using h
  · next hZ hz =>
    simp only [Option.bind_eq_bind, Option.bind_eq_some_iff] at h ⊢
    obtain ⟨⟨sign, s1⟩, signed, ⟨hours, s2⟩, hour, s3, between, ⟨minutes, s4⟩, minute, done⟩ := h
    exact ⟨(sign, s1), signed, (hours, s2), hour, s3, congrArg some (colons_of_after? between minute),
      (minutes, s4), minute, done⟩

theorem sign?_cons {c : Char} {s : List Char} {a : Int × List Char} (h : sign? (c :: s) = some a) :
    c = '+' ∨ c = '-' ∨ c = '\u2212' := by
  unfold sign? at h
  split at h <;> simp_all

theorem offset?_cons {between : List Char → Option (List Char)} {c : Char} {s : List Char} {a : Int × List Char}
    (h : offset? between (c :: s) = some a) :
    c = 'Z' ∨ c = 'z' ∨ c = '+' ∨ c = '-' ∨ c = '\u2212' := by
  unfold offset? at h
  split at h
  · simp_all
  · simp_all
  · obtain ⟨signed, hs, -⟩ := Option.bind_eq_some_iff.1 h
    exact .inr (.inr (sign?_cons hs))

theorem zone?_of_offset? : Refines (offset? (after? ':')) fun s => zone? (Text.trimStart s) := by
  have zoned : Refines (offset? (after? ':')) zone? := by
    intro s a h
    have lax := offset?_colons s a h
    unfold zone?
    split
    · next u t c s =>
      -- an offset does not begin as the name of the zone does
      have letter : u.toUpper ≠ 'U' := by
        rcases offset?_cons h with rfl | rfl | rfl | rfl | rfl <;> decide
      rw [if_neg (fun hu => letter hu.1)]
      exact lax
    · exact lax
  refine zoned.trimmed ?_ rfl
  intro c s a h
  rcases offset?_cons h with rfl | rfl | rfl | rfl | rfl <;> decide

theorem refines_bind {α β γ : Type} {x : Option α} {y : Option β} (convert : α → β)
    (first : ∀ a, x = some a → y = some (convert a)) {f : α → Option γ} {g : β → Option γ}
    (rest : ∀ a c, f a = some c → g (convert a) = some c) (c : γ) (h : x.bind f = some c) : y.bind g = some c := by
  obtain ⟨a, hx, hf⟩ := Option.bind_eq_some_iff.1 h
  exact Option.bind_eq_some_iff.2 ⟨convert a, first a hx, rest a c hf⟩

theorem relaxed?_of_strict? : Refines strict? relaxed? := by
  have hyphen : Refines (after? '-') (spacedAfter? '-') := spacedAfter?_of_after? (by decide)
  have colon : Refines (after? ':') (spacedAfter? ':') := spacedAfter?_of_after? (by decide)
  intro s
  refine refines_bind (fun x => ((x.1 : Int), x.2)) (fun x => year?_of_fixed?) fun (year, s) => ?_
  refine refines_bind id (hyphen s) fun s => ?_
  refine refines_bind id (spaced?_of_fixed? s) fun (month, s) => ?_
  refine refines_bind id (hyphen s) fun s => ?_
  refine refines_bind id (spaced?_of_fixed? s) fun (day, s) => ?_
  refine refines_bind id (fun _ => id) fun s => ?_
  refine refines_bind id (spaced?_of_fixed? s) fun (hour, s) => ?_
  refine refines_bind id (colon s) fun s => ?_
  refine refines_bind id (spaced?_of_fixed? s) fun (minute, s) => ?_
  refine refines_bind id (colon s) fun s => ?_
  refine refines_bind id (spaced?_of_fixed? s) fun (second, s) => ?_
  refine refines_bind id (fun _ => id) fun (nanos, s) => ?_
  refine refines_bind id (zone?_of_offset? s) fun (offset, s) => ?_
  intro t h
  dsimp only at h
  split at h
  · next ended =>
    rw [List.isEmpty_iff.1 ended]
    exact h
  · cases h

end Stamp

theorem Instant.relaxed?_of_strict? {s : String} {t : Instant} (h : strict? s = some t) : relaxed? s = some t := by
  obtain ⟨stamp, read, instant⟩ := Option.bind_eq_some_iff.1 h
  exact Option.bind_eq_some_iff.2 ⟨stamp, Stamp.relaxed?_of_strict? _ _ read, instant⟩

end DeepLink
