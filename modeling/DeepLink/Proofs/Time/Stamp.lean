import DeepLink.Proofs.Time.Calendar
import DeepLink.Time.Stamp
import Mathlib.Data.List.TakeWhile
import Mathlib.Tactic.IntervalCases

namespace DeepLink

theorem toNat_ofNat_digit {d : Nat} (h : d < 10) : (Char.ofNat (48 + d)).toNat = 48 + d := by
  interval_cases d <;> rfl

theorem isDigit_ofNat {d : Nat} (h : d < 10) : (Char.ofNat (48 + d)).isDigit := by
  interval_cases d <;> rfl

theorem Text.isBlank_of_isDigit {c : Char} (h : c.isDigit) : isBlank c = false := by
  rw [Char.isDigit_iff_toNat] at h
  have hl : 48 ≤ c.toNat := h.1
  have hu : c.toNat ≤ 57 := h.2
  simp only [isBlank, Bool.or_eq_false_iff, Bool.and_eq_false_iff, decide_eq_false_iff_not, beq_eq_false_iff_ne]
  omega

namespace Instant

theorem pad_length (width n : Nat) : (pad width n).length = width := by
  induction width generalizing n with
  | zero => rfl
  | succ width ih => rw [pad, List.length_append, ih]; rfl

theorem isDigit_of_mem_pad {width n : Nat} {c : Char} (h : c ∈ pad width n) : c.isDigit := by
  induction width generalizing n with
  | zero => simp [pad] at h
  | succ width ih =>
    rw [pad, List.mem_append, List.mem_singleton] at h
    rcases h with h | rfl
    · exact ih h
    · exact isDigit_ofNat (Nat.mod_lt _ (by decide))

theorem numberOf_pad (width n : Nat) : Stamp.numberOf (pad width n) = n % 10 ^ width := by
  induction width generalizing n with
  | zero => simp [pad, Stamp.numberOf, Nat.mod_one]
  | succ width ih =>
    have hd : Stamp.digit (Char.ofNat (48 + n % 10)) = n % 10 := by
      rw [Stamp.digit, toNat_ofNat_digit (Nat.mod_lt _ (by decide)), Nat.add_sub_cancel_left]
    rw [pad, Stamp.numberOf, List.foldl_append, ← Stamp.numberOf, ih]
    simp only [List.foldl_cons, List.foldl_nil, hd]
    rw [Nat.pow_succ', Nat.mod_mul]
    omega

theorem takeWhile_pad (width n : Nat) {c : Char} (s : List Char) (h : c.isDigit = false) :
    (pad width n ++ c :: s).takeWhile Char.isDigit = pad width n ∧
      (pad width n ++ c :: s).dropWhile Char.isDigit = c :: s := by
  have hd : ∀ x ∈ pad width n, x.isDigit := fun x hx => isDigit_of_mem_pad hx
  rw [List.takeWhile_append_of_pos hd, List.dropWhile_append_of_pos hd]
  simp [h]

end Instant

namespace Stamp

open Instant

theorem after?_self (c : Char) (s : List Char) : after? c (c :: s) = some s := if_pos rfl

theorem afterDate?_T (s : List Char) : afterDate? ('T' :: s) = some s := rfl

theorem fixed?_pad {width n : Nat} (h : n < 10 ^ width) (s : List Char) :
    fixed? width (pad width n ++ s) = some (n, s) := by
  have take : (pad width n ++ s).take width = pad width n := by
    rw [List.take_append_of_le_length (Nat.le_of_eq (pad_length _ _).symm), List.take_of_length_le (Nat.le_of_eq (pad_length _ _))]
  have drop : (pad width n ++ s).drop width = s := by
    rw [List.drop_append_of_le_length (Nat.le_of_eq (pad_length _ _).symm), List.drop_eq_nil_of_le (Nat.le_of_eq (pad_length _ _))]
    rfl
  have all : (pad width n).all Char.isDigit := List.all_eq_true.2 fun c hc => isDigit_of_mem_pad hc
  simp only [fixed?, take, drop, pad_length, all, and_self, ↓reduceIte, numberOf_pad, Nat.mod_eq_of_lt h]

theorem short?_pad {width n : Nat} (h : n < 10 ^ (width + 1)) (s : List Char) :
    short? (width + 1) (pad (width + 1) n ++ s) = some (n, s) := by
  have take : (pad (width + 1) n ++ s).take (width + 1) = pad (width + 1) n := by
    rw [List.take_append_of_le_length (Nat.le_of_eq (pad_length _ _).symm), List.take_of_length_le (Nat.le_of_eq (pad_length _ _))]
  have all : (pad (width + 1) n).takeWhile Char.isDigit = pad (width + 1) n :=
    List.takeWhile_eq_self_iff.2 fun c hc => isDigit_of_mem_pad hc
  have some_digit : (pad (width + 1) n).isEmpty = false := by
    rw [List.isEmpty_eq_false_iff, ← List.length_pos_iff, pad_length]
    exact Nat.succ_pos _
  have drop : (pad (width + 1) n ++ s).drop (pad (width + 1) n).length = s := List.drop_left
  simp only [short?, take, all, some_digit, drop, Bool.false_eq_true, ↓reduceIte, numberOf_pad, Nat.mod_eq_of_lt h]

theorem trimStart_pad (width n : Nat) (s : List Char) :
    Text.trimStart (pad (width + 1) n ++ s) = pad (width + 1) n ++ s := by
  obtain ⟨c, ds, hp⟩ := List.exists_cons_of_length_pos (Nat.lt_of_lt_of_eq (Nat.succ_pos width) (pad_length _ n).symm)
  have hc : c.isDigit := isDigit_of_mem_pad (hp ▸ List.mem_cons_self)
  rw [hp, Text.trimStart, List.cons_append, List.dropWhile_cons_of_neg]
  simp [Text.isBlank_of_isDigit hc]

theorem spaced?_pad {n : Nat} (h : n < 10 ^ 2) (s : List Char) : spaced? (pad 2 n ++ s) = some (n, s) := by
  rw [spaced?, trimStart_pad]
  exact short?_pad h s

theorem spacedAfter?_self {c : Char} (h : Text.isBlank c = false) (s : List Char) :
    spacedAfter? c (c :: s) = some s := by
  rw [spacedAfter?, Text.trimStart, List.dropWhile_cons_of_neg (by simp [h]), after?_self]

theorem year?_pad {n : Nat} (h : n < 10 ^ 4) (s : List Char) : year? (pad 4 n ++ s) = some ((n : Int), s) := by
  obtain ⟨c, ds, hp⟩ := List.exists_cons_of_length_pos (Nat.lt_of_lt_of_eq (Nat.succ_pos 3) (pad_length _ n).symm)
  have hc : c.isDigit := isDigit_of_mem_pad (hp ▸ List.mem_cons_self)
  have short := short?_pad h s
  rw [hp, List.cons_append] at short ⊢
  unfold year?
  split
  · next he => simp_all
  · next he => simp_all
  · rw [short, Option.map_some]

theorem numberOf_eq_ofDigitChars (ds : List Char) : numberOf ds = Nat.ofDigitChars 10 ds 0 := by
  rw [numberOf, Nat.ofDigitChars]
  congr
  funext n c
  rw [Nat.mul_comm]
  rfl

theorem short?_digits {ds : List Char} (some_digit : ds ≠ []) (digits : ∀ c ∈ ds, c.isDigit) {c : Char}
    (hc : c.isDigit = false) (s : List Char) :
    short? (ds ++ c :: s).length (ds ++ c :: s) = some (numberOf ds, c :: s) := by
  have taken : (ds ++ c :: s).takeWhile Char.isDigit = ds := by
    rw [List.takeWhile_append_of_pos digits, List.takeWhile_cons_of_neg (Bool.eq_false_iff.1 hc), List.append_nil]
  simp only [short?, List.take_length, taken, List.isEmpty_iff, some_digit, ↓reduceIte, List.drop_left]

theorem numberOf_magnitude {n : Nat} {ds : List Char}
    (h : ds = if n ≤ 9999 then pad 4 n else Decimal.numeral n) :
    numberOf ds = n ∧ ds ≠ [] ∧ ∀ c ∈ ds, c.isDigit := by
  subst h
  split
  · next few =>
    refine ⟨?_, ?_, fun c hc => isDigit_of_mem_pad hc⟩
    · rw [numberOf_pad]
      omega
    · rw [← List.length_pos_iff, pad_length]
      decide
  · refine ⟨?_, Nat.toDigits_ne_nil, fun c hc => Nat.isDigit_of_mem_toDigits (by decide) (by decide) hc⟩
    rw [numberOf_eq_ofDigitChars]
    exact Nat.ofDigitChars_ten_toDigits

theorem year?_yearText (y : Int) (s : List Char) :
    year? (Text.trimStart (yearText y ++ '-' :: s)) = some (y, '-' :: s) := by
  unfold yearText
  split
  · next four =>
    rw [trimStart_pad, year?_pad (by omega)]
    simp only [Int.toNat_of_nonneg four.1]
  · obtain ⟨number, some_digit, digits⟩ := numberOf_magnitude (n := y.natAbs) rfl
    have read := short?_digits some_digit digits (show '-'.isDigit = false from rfl) s
    rw [number] at read
    split
    · next below =>
      rw [List.cons_append, Text.trimStart_cons (by decide), year?, read, Option.map_some]
      simp only [Option.some.injEq, Prod.mk.injEq, and_true]
      omega
    · next above =>
      rw [List.cons_append, Text.trimStart_cons (by decide), year?, read, Option.map_some]
      simp only [Option.some.injEq, Prod.mk.injEq, and_true]
      omega

theorem offset?_Z (between : List Char → Option (List Char)) (s : List Char) :
    offset? between ('Z' :: s) = some (0, s) := rfl

theorem zone?_Z : zone? (Text.trimStart ['Z']) = some (0, []) := rfl

theorem numberOf_zeros (ds : List Char) (k : Nat) :
    numberOf (ds ++ List.replicate k '0') = numberOf ds * 10 ^ k := by
  induction k with
  | zero => simp
  | succ k ih =>
    rw [List.replicate_succ', ← List.append_assoc, numberOf, List.foldl_append, ← numberOf, ih]
    simp only [List.foldl_cons, List.foldl_nil, show digit '0' = 0 from rfl]
    rw [Nat.pow_succ, ← Nat.mul_assoc, Nat.add_zero]

theorem fraction?_pad {width n : Nat} (h0 : 0 < width) (h9 : width ≤ 9) (h : n < 10 ^ width) (s : List Char) :
    fraction? ('.' :: pad width n ++ 'Z' :: s) = some (n * 10 ^ (9 - width), 'Z' :: s) := by
  obtain ⟨digits, rest⟩ := takeWhile_pad width n s (show 'Z'.isDigit = false from rfl)
  have some_digit : (pad width n).isEmpty = false := by
    rw [List.isEmpty_eq_false_iff, ← List.length_pos_iff, pad_length]
    exact h0
  have nine : (pad width n ++ List.replicate 9 '0').take 9 = pad width n ++ List.replicate (9 - width) '0' := by
    rw [List.take_append, List.take_of_length_le (by rw [pad_length]; exact h9), pad_length,
      List.take_replicate, Nat.min_eq_left (Nat.sub_le 9 width)]
  simp only [List.cons_append, fraction?, digits, rest, some_digit, nine, Bool.false_eq_true, ↓reduceIte,
    numberOf_zeros, numberOf_pad, Nat.mod_eq_of_lt h]

theorem fraction?_fractionText {n : Nat} (h : n < billion) (s : List Char) :
    fraction? (fractionText n ++ 'Z' :: s) = some (n, 'Z' :: s) := by
  have hn : n < 1000000000 := h
  unfold fractionText
  split
  · next h0 =>
    subst h0
    rfl
  split
  · rw [fraction?_pad (by decide) (by decide) (by omega)]
    simp only [Option.some.injEq, Prod.mk.injEq, and_true]
    omega
  split
  · rw [fraction?_pad (by decide) (by decide) (by omega)]
    simp only [Option.some.injEq, Prod.mk.injEq, and_true]
    omega
  · rw [fraction?_pad (by decide) (by decide) (by omega)]
    simp

end Stamp

namespace Instant

def FourDigits (t : Instant) : Prop := 0 ≤ t.year ∧ t.year ≤ 9999

instance (t : Instant) : Decidable t.FourDigits := by unfold FourDigits; infer_instance

def stamp (t : Instant) : Stamp where
  date := t.date
  hour := t.clock / 3600
  minute := t.clock / 60 % 60
  second := t.clock % 60 + if t.nanos < billion then 0 else 1
  nanos := t.shownNanos
  offset := 0

theorem shownNanos_lt (t : Instant) : t.shownNanos < billion := by
  have h := t.fraction
  unfold shownNanos
  split <;> omega

theorem clock_lt (t : Instant) : t.clock < 86400 := by
  unfold clock
  omega

theorem clock_mod_60 (t : Instant) : (t.clock % 60 : Nat) = (t.seconds % 60).toNat := by
  unfold clock
  omega

theorem stamp_second_le (t : Instant) : t.stamp.second ≤ 60 := by
  show t.clock % 60 + (if t.nanos < billion then 0 else 1) ≤ 60
  split <;> omega

theorem stamp_nanos (t : Instant) :
    (if t.stamp.second = 60 then t.stamp.nanos + billion else t.stamp.nanos) = t.nanos ∧
      min t.stamp.second 59 = t.clock % 60 := by
  have hc := t.clock_mod_60
  have hf := t.fraction
  show (if t.clock % 60 + (if t.nanos < billion then 0 else 1) = 60 then t.shownNanos + billion
      else t.shownNanos) = t.nanos ∧ min (t.clock % 60 + if t.nanos < billion then 0 else 1) 59 = t.clock % 60
  unfold shownNanos
  -- A leap second is shown as 60: its nanoseconds lose the second that the 60 stands for.
  by_cases leap : t.nanos < billion
  · have : t.clock % 60 + 0 ≠ 60 := by omega
    simp only [if_pos leap, if_neg this, true_and]
    omega
  · have h59 : t.clock % 60 = 59 := by omega
    simp only [if_neg leap, h59, if_true]
    omega

theorem year_bounds (t : Instant) : -262143 ≤ t.date.year ∧ t.date.year ≤ 262142 := by
  have least : -8334601228800 ≤ t.seconds := t.inRange.1
  have greatest : t.seconds ≤ 8210266876799 := t.inRange.2
  exact ⟨Date.le_year _ (by omega), Date.year_le _ (by omega)⟩

theorem instant?_stamp (t : Instant) : t.stamp.instant? = some t := by
  have date : t.stamp.date = t.date := rfl
  have valid : t.date.Valid := Date.ofDays_valid _
  have days : t.date.toDays = t.seconds / 86400 := Date.toDays_ofDays _
  have year := t.year_bounds
  have hour : t.stamp.hour ≤ 23 := by
    have := t.clock_lt
    show t.clock / 3600 ≤ 23
    omega
  have minute : t.stamp.minute ≤ 59 := by
    show t.clock / 60 % 60 ≤ 59
    omega
  obtain ⟨nanos, second⟩ := t.stamp_nanos
  have seconds : 86400 * t.stamp.date.toDays +
      ((3600 * t.stamp.hour + 60 * t.stamp.minute + min t.stamp.second 59 : Nat) : Int) - t.stamp.offset =
        t.seconds := by
    rw [date, days, second]
    show 86400 * (t.seconds / 86400) +
      ((3600 * (t.clock / 3600) + 60 * (t.clock / 60 % 60) + t.clock % 60 : Nat) : Int) - 0 = t.seconds
    unfold clock
    omega
  have guard : t.stamp.date.Valid ∧ -262143 ≤ t.stamp.date.year ∧ t.stamp.date.year ≤ 262142 ∧
      t.stamp.hour ≤ 23 ∧ t.stamp.minute ≤ 59 ∧ t.stamp.second ≤ 60 ∧ t.stamp.offset.natAbs < 86400 :=
    ⟨valid, year.1, year.2, hour, minute, t.stamp_second_le, by show (0 : Int).natAbs < 86400; decide⟩
  rw [Stamp.instant?, if_pos guard]
  show Instant.of? (86400 * t.stamp.date.toDays +
      ((3600 * t.stamp.hour + 60 * t.stamp.minute + min t.stamp.second 59 : Nat) : Int) - t.stamp.offset)
    (if t.stamp.second = 60 then t.stamp.nanos + billion else t.stamp.nanos) = some t
  rw [seconds, nanos, Instant.of?, dif_pos ⟨t.inRange, t.fraction⟩]

theorem text_parts (t : Instant) : t.text.toList =
    yearText t.year ++ '-' :: (pad 2 t.date.month ++ '-' :: (pad 2 t.date.day ++ 'T' ::
      (pad 2 t.stamp.hour ++ ':' :: (pad 2 t.stamp.minute ++ ':' :: (pad 2 t.stamp.second ++
        (fractionText t.shownNanos ++ ['Z'])))))) := by
  simp only [text, String.toList_ofList, head, List.append_assoc, List.cons_append]
  rfl

theorem stamp_bounds (t : Instant) :
    t.date.month < 10 ^ 2 ∧ t.date.day < 10 ^ 2 ∧ t.stamp.hour < 10 ^ 2 ∧ t.stamp.minute < 10 ^ 2 ∧
      t.stamp.second < 10 ^ 2 := by
  have hd : t.date.Valid := Date.ofDays_valid _
  have day : t.date.day ≤ 31 := by
    refine Nat.le_trans hd.2.2.2 ?_
    unfold Date.daysIn
    repeat' split
    all_goals decide
  have hour : t.stamp.hour < 24 := by
    have := t.clock_lt
    show t.clock / 3600 < 24
    omega
  have minute : t.stamp.minute < 60 := Nat.mod_lt _ (by decide)
  have second := t.stamp_second_le
  have month := hd.2.1
  refine ⟨?_, ?_, ?_, ?_, ?_⟩ <;> omega

theorem stamp_strict {t : Instant} (h : t.FourDigits) : Stamp.strict? t.text.toList = some t.stamp := by
  obtain ⟨month, day, hour, minute, second⟩ := t.stamp_bounds
  have year : yearText t.year = pad 4 t.year.toNat := if_pos h
  have four : t.year.toNat < 10 ^ 4 := by
    have := h.2
    omega
  have stamp : t.stamp = ⟨⟨(t.year.toNat : Int), t.date.month, t.date.day⟩, t.stamp.hour, t.stamp.minute,
      t.stamp.second, t.shownNanos, 0⟩ := by
    rw [Int.toNat_of_nonneg h.1]
    rfl
  rw [text_parts, year]
  refine Option.bind_eq_some_iff.2 ⟨_, Stamp.fixed?_pad four _, ?_⟩
  refine Option.bind_eq_some_iff.2 ⟨_, Stamp.after?_self '-' _, ?_⟩
  refine Option.bind_eq_some_iff.2 ⟨_, Stamp.fixed?_pad month _, ?_⟩
  refine Option.bind_eq_some_iff.2 ⟨_, Stamp.after?_self '-' _, ?_⟩
  refine Option.bind_eq_some_iff.2 ⟨_, Stamp.fixed?_pad day _, ?_⟩
  refine Option.bind_eq_some_iff.2 ⟨_, Stamp.afterDate?_T _, ?_⟩
  refine Option.bind_eq_some_iff.2 ⟨_, Stamp.fixed?_pad hour _, ?_⟩
  refine Option.bind_eq_some_iff.2 ⟨_, Stamp.after?_self ':' _, ?_⟩
  refine Option.bind_eq_some_iff.2 ⟨_, Stamp.fixed?_pad minute _, ?_⟩
  refine Option.bind_eq_some_iff.2 ⟨_, Stamp.after?_self ':' _, ?_⟩
  refine Option.bind_eq_some_iff.2 ⟨_, Stamp.fixed?_pad second _, ?_⟩
  refine Option.bind_eq_some_iff.2 ⟨_, Stamp.fraction?_fractionText t.shownNanos_lt _, ?_⟩
  refine Option.bind_eq_some_iff.2 ⟨_, Stamp.offset?_Z _ _, ?_⟩
  exact congrArg some stamp.symm

theorem stamp_relaxed (t : Instant) : Stamp.relaxed? t.text.toList = some t.stamp := by
  obtain ⟨month, day, hour, minute, second⟩ := t.stamp_bounds
  have dash := Stamp.spacedAfter?_self (show Text.isBlank '-' = false from rfl)
  have colon := Stamp.spacedAfter?_self (show Text.isBlank ':' = false from rfl)
  rw [text_parts]
  refine Option.bind_eq_some_iff.2 ⟨_, Stamp.year?_yearText t.year _, ?_⟩
  refine Option.bind_eq_some_iff.2 ⟨_, dash _, ?_⟩
  refine Option.bind_eq_some_iff.2 ⟨_, Stamp.spaced?_pad month _, ?_⟩
  refine Option.bind_eq_some_iff.2 ⟨_, dash _, ?_⟩
  refine Option.bind_eq_some_iff.2 ⟨_, Stamp.spaced?_pad day _, ?_⟩
  refine Option.bind_eq_some_iff.2 ⟨_, Stamp.afterDate?_T _, ?_⟩
  refine Option.bind_eq_some_iff.2 ⟨_, Stamp.spaced?_pad hour _, ?_⟩
  refine Option.bind_eq_some_iff.2 ⟨_, colon _, ?_⟩
  refine Option.bind_eq_some_iff.2 ⟨_, Stamp.spaced?_pad minute _, ?_⟩
  refine Option.bind_eq_some_iff.2 ⟨_, colon _, ?_⟩
  refine Option.bind_eq_some_iff.2 ⟨_, Stamp.spaced?_pad second _, ?_⟩
  refine Option.bind_eq_some_iff.2 ⟨_, Stamp.fraction?_fractionText t.shownNanos_lt _, ?_⟩
  exact Option.bind_eq_some_iff.2 ⟨_, Stamp.zone?_Z, rfl⟩

theorem strict?_text {t : Instant} (h : t.FourDigits) : strict? t.text = some t := by
  rw [strict?, stamp_strict h]
  exact t.instant?_stamp

theorem relaxed?_text (t : Instant) : relaxed? t.text = some t := by
  rw [relaxed?, stamp_relaxed]
  exact t.instant?_stamp

theorem strict?_text_of_not {t : Instant} (h : ¬t.FourDigits) : strict? t.text = none := by
  -- The year has a sign, where a timestamp of the standard has four digits.
  obtain ⟨sign, s, hs, signed⟩ : ∃ sign s, t.text.toList = sign :: s ∧ sign.isDigit = false := by
    have year : yearText t.date.year = _ := if_neg h
    simp only [text, String.toList_ofList, head, year, List.cons_append]
    refine ⟨_, _, rfl, ?_⟩
    split <;> rfl
  have stuck : Stamp.fixed? 4 (sign :: s) = none := by
    simp [Stamp.fixed?, signed]
  rw [strict?, hs, Stamp.strict?, stuck]
  rfl

end Instant

end DeepLink
