import DeepLink.Json.Reader.Basic

namespace DeepLink.Json.Reader

def isHex (c : Char) : Bool := c.isDigit || ('a' ≤ c && c ≤ 'f') || ('A' ≤ c && c ≤ 'F')

def isShortEscape (c : Char) : Bool := ['"', '\\', '/', 'b', 'f', 'n', 'r', 't'].contains c

def passString : List Char → Except Fault (List Char)
  | [] => .error (.here .endInString [])
  | '"' :: s => .ok s
  | '\\' :: 'u' :: a :: b :: c :: d :: s =>
    if isHex a && isHex b && isHex c && isHex d then passString s else .error (.before .badEscape s)
  | '\\' :: c :: s => if isShortEscape c then passString s else .error (.here .badEscape (c :: s))
  | c :: s =>
    if c = '\\' then .error (.here .endInString [])
    else if c.toNat < 0x20 then .error (.here .controlCharacter (c :: s))
    else passString s

def passDigits (s : List Char) : Except Fault (List Char) :=
  if s.head?.any Char.isDigit then .ok (s.dropWhile Char.isDigit)
  else .error (.here (if s.isEmpty then .endInValue else .badNumber) s)

def passSign : List Char → List Char
  | '+' :: s => s
  | '-' :: s => s
  | s => s

def passExponent : List Char → Except Fault (List Char)
  | 'e' :: s => passDigits (passSign s)
  | 'E' :: s => passDigits (passSign s)
  | s => .ok s

def passFraction : List Char → Except Fault (List Char)
  | '.' :: s => (passDigits s).bind passExponent
  | s => passExponent s

def passNumber (s : List Char) : Except Fault (List Char) :=
  match s with
  | '0' :: r =>
    if r.head?.any Char.isDigit then .error (.here .badNumber r) else passFraction r
  | _ => (passDigits s).bind passFraction

theorem passString_length_lt {s r : List Char} (h : passString s = .ok r) : r.length < s.length := by
  fun_induction passString s with
  | case1 => simp at h
  | case2 => simp_all
  | case3 a b c d s _ ih =>
    have := ih h
    simp only [List.length_cons]
    omega
  | case4 => simp at h
  | case5 c s _ _ ih =>
    have := ih h
    simp only [List.length_cons]
    omega
  | case6 => simp at h
  | case7 => simp at h
  | case8 => simp at h
  | case9 c s _ _ _ _ _ ih => exact Nat.lt_succ_of_lt (ih h)

theorem passDigits_length_lt {s r : List Char} (h : passDigits s = .ok r) : r.length < s.length := by
  cases s with
  | nil => simp [passDigits] at h
  | cons c s =>
    by_cases hc : c.isDigit = true
    · simp only [passDigits, List.head?_cons, Option.any_some, hc, ↓reduceIte,
        List.dropWhile_cons_of_pos, Except.ok.injEq] at h
      exact h ▸ Nat.lt_succ_of_le (length_dropWhile_le _ s)
    · simp [passDigits, hc] at h

theorem passSign_length_le (s : List Char) : (passSign s).length ≤ s.length := by
  fun_cases passSign s <;> simp

theorem passExponent_length_le {s r : List Char} (h : passExponent s = .ok r) : r.length ≤ s.length := by
  fun_cases passExponent s with
  | case1 s =>
    have := passDigits_length_lt h
    have := passSign_length_le s
    simp only [List.length_cons]
    omega
  | case2 s =>
    have := passDigits_length_lt h
    have := passSign_length_le s
    simp only [List.length_cons]
    omega
  | case3 => simp_all [passExponent]

theorem bind_eq_ok {α β : Type} {x : Except Fault α} {f : α → Except Fault β} {b : β} :
    x.bind f = .ok b ↔ ∃ a, x = .ok a ∧ f a = .ok b := by
  cases x <;> simp [Except.bind]

theorem passFraction_length_le {s r : List Char} (h : passFraction s = .ok r) : r.length ≤ s.length := by
  fun_cases passFraction s with
  | case1 s =>
    obtain ⟨t, ht, hr⟩ := bind_eq_ok.1 h
    have := passDigits_length_lt ht
    have := passExponent_length_le hr
    simp only [List.length_cons]
    omega
  | case2 => exact passExponent_length_le (by simpa [passFraction] using h)

theorem passNumber_length_lt {s r : List Char} (h : passNumber s = .ok r) : r.length < s.length := by
  unfold passNumber at h
  split at h
  · split at h
    · simp at h
    · exact Nat.lt_succ_of_le (passFraction_length_le h)
  · obtain ⟨t, ht, hr⟩ := bind_eq_ok.1 h
    exact Nat.lt_of_le_of_lt (passFraction_length_le hr) (passDigits_length_lt ht)

inductive Bracket where
  | list | object
deriving DecidableEq

/-- What may come next: a value, an item or the end of a list, a name, a name or the end of an object, or
what goes on after a value. -/
inductive Due where
  | value | item | name | firstName | more
deriving DecidableEq

abbrev Progress := Except Fault ((Due × List Bracket) × List Char)

def passed (opened : List Bracket) (x : Except Fault (List Char)) : Progress :=
  x.map fun r => ((.more, opened), r)

theorem passed_eq_ok {opened : List Bracket} {x : Except Fault (List Char)} {p : Due × List Bracket}
    {r : List Char} (h : passed opened x = .ok (p, r)) : x = .ok r := by
  cases x <;> simp_all [passed, Except.map]

def passLiteral (opened : List Bracket) (rest r : List Char) : Progress :=
  match literal () rest r with
  | .ok (_, t) => .ok ((.more, opened), t)
  | .error e => .error e

theorem passLiteral_length_le {opened : List Bracket} {rest s r : List Char} {p : Due × List Bracket}
    (h : passLiteral opened rest s = .ok (p, r)) : r.length ≤ s.length := by
  unfold passLiteral at h
  split at h
  · next hl =>
    have := literal_length_le hl
    simp_all
  · simp at h

def passValue (opened : List Bracket) : List Char → Progress
  | [] => .error (.here .endInValue [])
  | '[' :: r => .ok ((.item, .list :: opened), r)
  | '{' :: r => .ok ((.firstName, .object :: opened), r)
  | '"' :: r => passed opened (passString r)
  | '-' :: r => passed opened (passNumber r)
  | 'n' :: r => passLiteral opened ['u', 'l', 'l'] r
  | 't' :: r => passLiteral opened ['r', 'u', 'e'] r
  | 'f' :: r => passLiteral opened ['a', 'l', 's', 'e'] r
  | c :: r => if c.isDigit then passed opened (passNumber (c :: r)) else .error (.here .noValue (c :: r))

theorem passValue_length_lt {opened : List Bracket} {s r : List Char} {p : Due × List Bracket}
    (h : passValue opened s = .ok (p, r)) : r.length < s.length := by
  unfold passValue at h
  split at h
  · simp at h
  · simp_all
  · simp_all
  · exact Nat.lt_succ_of_lt (passString_length_lt (passed_eq_ok h))
  · exact Nat.lt_succ_of_lt (passNumber_length_lt (passed_eq_ok h))
  · exact Nat.lt_succ_of_le (passLiteral_length_le h)
  · exact Nat.lt_succ_of_le (passLiteral_length_le h)
  · exact Nat.lt_succ_of_le (passLiteral_length_le h)
  · split at h
    · exact passNumber_length_lt (passed_eq_ok h)
    · simp at h

def passName (opened : List Bracket) : List Char → Progress
  | '"' :: s =>
    match passString s with
    | .error e => .error e
    | .ok r =>
      match skip r with
      | ':' :: t => .ok ((.value, opened), t)
      | [] => .error (.here .endInObject [])
      | t => .error (.here .noColon t)
  | [] => .error (.here .endInObject [])
  | s => .error (.here .noKey s)

theorem passName_length_lt {opened : List Bracket} {s r : List Char} {p : Due × List Bracket}
    (h : passName opened s = .ok (p, r)) : r.length < s.length := by
  unfold passName at h
  split at h
  · next s =>
    split at h
    · simp at h
    · next t ht =>
      have := passString_length_lt ht
      have := skip_length_le t
      split at h
      · next hs =>
        simp only [Except.ok.injEq, Prod.mk.injEq] at h
        simp only [hs, List.length_cons, ← h.2] at *
        omega
      · simp at h
      · simp at h
  · simp at h
  · simp at h

def passMore (opened : List Bracket) (s : List Char) : Progress :=
  match opened, s with
  | .list :: _, ',' :: r => .ok ((.value, opened), r)
  | .object :: _, ',' :: r => .ok ((.name, opened), r)
  | .list :: up, ']' :: r => .ok ((.more, up), r)
  | .object :: up, '}' :: r => .ok ((.more, up), r)
  | .object :: _, r => .error (.here (if r.isEmpty then .endInObject else .noObjectEnd) r)
  | _, r => .error (.here (if r.isEmpty then .endInList else .noListEnd) r)

theorem passMore_length_lt {opened : List Bracket} {s r : List Char} {p : Due × List Bracket}
    (h : passMore opened s = .ok (p, r)) : r.length < s.length := by
  unfold passMore at h
  split at h <;> simp_all

def advance (due : Due) (opened : List Bracket) (s : List Char) : Progress :=
  match due, skip s with
  | .item, ']' :: r => .ok ((.more, opened.tail), r)
  | .firstName, '}' :: r => .ok ((.more, opened.tail), r)
  | .value, r => passValue opened r
  | .item, r => passValue opened r
  | .name, r => passName opened r
  | .firstName, r => passName opened r
  | .more, r => passMore opened r

theorem advance_length_lt {due next : Due} {opened left : List Bracket} {s r : List Char}
    (h : advance due opened s = .ok ((next, left), r)) : r.length < s.length := by
  refine Nat.lt_of_lt_of_le ?_ (skip_length_le s)
  unfold advance at h
  generalize skip s = t at h
  split at h
  · simp_all
  · simp_all
  · exact passValue_length_lt h
  · exact passValue_length_lt h
  · exact passName_length_lt h
  · exact passName_length_lt h
  · exact passMore_length_lt h

def passOver (due : Due) (opened : List Bracket) (s : List Char) : Except Fault (List Char) :=
  if due = .more ∧ opened = [] then .ok s
  else
    match _h : advance due opened s with
    | .error e => .error e
    | .ok ((next, left), r) => passOver next left r
termination_by s.length
decreasing_by exact advance_length_lt _h

theorem passOver_length_le {due : Due} {opened : List Bracket} {s r : List Char}
    (h : passOver due opened s = .ok r) : r.length ≤ s.length := by
  fun_induction passOver due opened s with
  | case1 => simp_all
  | case2 => simp at h
  | case3 due opened s _ next left t ht ih => exact Nat.le_trans (ih h) (Nat.le_of_lt (advance_length_lt ht))

def ignored (s : List Char) : Except Fault (List Char) :=
  match advance .value [] s with
  | .error e => .error e
  | .ok ((due, opened), r) => passOver due opened r

theorem ignored_length_lt {s r : List Char} (h : ignored s = .ok r) : r.length < s.length := by
  unfold ignored at h
  split at h
  · simp at h
  · next ha => exact Nat.lt_of_le_of_lt (passOver_length_le h) (advance_length_lt ha)

end DeepLink.Json.Reader
