import DeepLink.Json.Basic
import DeepLink.Json.Reader.Basic

namespace DeepLink.Json.Reader

def digitValue (c : Char) : Nat := c.toNat - 48

def absorb (significand : Nat) : List Char → Nat × Nat
  | [] => (significand, 0)
  | d :: ds =>
    let next := significand * 10 + digitValue d
    if next < 0x10000000000000000 then absorb next ds else (significand, ds.length + 1)

def exponentDigits (value : Nat) : List Char → Nat × List Char × Bool
  | [] => (value, [], true)
  | c :: s =>
    if c.isDigit then
      let next := value * 10 + digitValue c
      if next < 0x80000000 then exponentDigits next s else (next, s, false)
    else (value, c :: s, true)

theorem exponentDigits_suffix (value : Nat) (s : List Char) : (exponentDigits value s).2.1 <:+ s := by
  fun_induction exponentDigits value s with
  | case1 => exact List.suffix_refl _
  | case2 value c s hc next hn ih => exact ih.trans (List.suffix_cons c s)
  | case3 value c s => exact List.suffix_cons c s
  | case4 => exact List.suffix_refl _

def finish (negative : Bool) (significand : Nat) (exponent : Int) (rest : List Char) : Reading Number :=
  match Binary64.ofDecimal significand exponent with
  | some x => .ok (.real (if negative then x.neg else x), rest)
  | none => .error (.before .numberTooLarge rest)

theorem finish_rest {negative : Bool} {significand : Nat} {exponent : Int} {rest r : List Char} {n : Number}
    (h : finish negative significand exponent rest = .ok (n, r)) : r = rest := by
  simp only [finish] at h
  split at h
  · simp_all
  · simp at h

def exponentSign : List Char → Bool × List Char
  | '+' :: r => (false, r)
  | '-' :: r => (true, r)
  | r => (false, r)

theorem exponentSign_suffix (s : List Char) : (exponentSign s).2 <:+ s := by
  fun_cases exponentSign s with
  | case1 r => exact List.suffix_cons '+' r
  | case2 r => exact List.suffix_cons '-' r
  | case3 => exact List.suffix_refl _

def exponent (negative : Bool) (significand : Nat) (scale : Int) (s : List Char) : Reading Number :=
  let (down, r) := exponentSign s
  match r with
  | [] => .error (.here .endInValue [])
  | c :: _ =>
    if c.isDigit then
      match exponentDigits 0 r with
      | (n, t, true) => finish negative significand (if down then scale - n else scale + n) t
      | (_, t, false) =>
        if significand ≠ 0 ∧ !down then .error (.before .numberTooLarge t)
        else finish negative 0 0 (t.dropWhile Char.isDigit)
    else .error (.here .badNumber r)

theorem exponent_suffix {negative : Bool} {significand : Nat} {scale : Int} {s r : List Char} {n : Number}
    (h : exponent negative significand scale s = .ok (n, r)) : r <:+ s := by
  have hs := exponentSign_suffix s
  unfold exponent at h
  generalize exponentSign s = sign at h hs
  obtain ⟨down, t⟩ := sign
  have ht := exponentDigits_suffix 0 t
  simp only at h hs
  split at h
  · simp at h
  split at h
  · split at h
    · next he =>
      rw [finish_rest h]
      rw [he] at ht
      exact ht.trans hs
    · next he =>
      split at h
      · simp at h
      · rw [finish_rest h]
        rw [he] at ht
        exact (List.dropWhile_suffix _).trans (ht.trans hs)
  · simp at h

def fraction (negative : Bool) (significand dropped : Nat) : List Char → Reading Number
  | '.' :: s =>
    let ds := s.takeWhile Char.isDigit
    let r := s.dropWhile Char.isDigit
    if ds.isEmpty then .error (.here (if r.isEmpty then .endInValue else .badNumber) r)
    else
      let (significand, unread) := absorb significand ds
      let scale : Int := dropped - ((ds.length - unread : Nat) : Int)
      match r with
      | 'e' :: t => exponent negative significand scale t
      | 'E' :: t => exponent negative significand scale t
      | _ => finish negative significand scale r
  | 'e' :: s => exponent negative significand dropped s
  | 'E' :: s => exponent negative significand dropped s
  | s =>
    if dropped ≠ 0 then finish negative significand dropped s
    else if !negative then .ok (.integer significand, s)
    else if 0 < significand ∧ significand ≤ 0x8000000000000000 then .ok (.integer (-significand), s)
    else .ok (.real (Binary64.ofNat significand).neg, s)

theorem fraction_suffix {negative : Bool} {significand dropped : Nat} {s r : List Char} {n : Number}
    (h : fraction negative significand dropped s = .ok (n, r)) : r <:+ s := by
  unfold fraction at h
  split at h
  · next s =>
    have hs : s.dropWhile Char.isDigit <:+ '.' :: s :=
      (List.dropWhile_suffix _).trans (List.suffix_cons '.' s)
    simp only at h
    split at h
    · simp at h
    · split at h
      · next u he =>
        rw [he] at hs
        exact (exponent_suffix h).trans ((List.suffix_cons 'e' u).trans hs)
      · next u he =>
        rw [he] at hs
        exact (exponent_suffix h).trans ((List.suffix_cons 'E' u).trans hs)
      · rw [finish_rest h]
        exact hs
  · exact (exponent_suffix h).trans (List.suffix_cons 'e' _)
  · exact (exponent_suffix h).trans (List.suffix_cons 'E' _)
  · split at h
    · exact finish_rest h ▸ List.suffix_refl _
    · split at h
      · simp_all
      · split at h <;> simp_all

def number (negative : Bool) : List Char → Reading Number
  | [] => .error (.here .endInValue [])
  | '0' :: s =>
    match s with
    | c :: r => if c.isDigit then .error (.here .badNumber (c :: r)) else fraction negative 0 0 (c :: r)
    | [] => fraction negative 0 0 []
  | c :: s =>
    if c.isDigit then
      let (significand, dropped) := absorb 0 ((c :: s).takeWhile Char.isDigit)
      fraction negative significand dropped ((c :: s).dropWhile Char.isDigit)
    else .error (.here .badNumber (c :: s))

theorem number_suffix {negative : Bool} {s r : List Char} {n : Number} (h : number negative s = .ok (n, r)) :
    ∃ c t, s = c :: t ∧ r <:+ t := by
  unfold number at h
  split at h
  · simp at h
  · split at h
    · split at h
      · simp at h
      · exact ⟨_, _, rfl, fraction_suffix h⟩
    · exact ⟨_, _, rfl, fraction_suffix h⟩
  · next c s _ =>
    split at h
    · next hc =>
      have hf := fraction_suffix h
      rw [List.dropWhile_cons_of_pos hc] at hf
      exact ⟨c, s, rfl, hf.trans (List.dropWhile_suffix _)⟩
    · simp at h

theorem number_length_lt {negative : Bool} {s r : List Char} {n : Number}
    (h : number negative s = .ok (n, r)) : r.length < s.length := by
  obtain ⟨c, t, rfl, hr⟩ := number_suffix h
  exact Nat.lt_succ_of_le hr.length_le

end DeepLink.Json.Reader
