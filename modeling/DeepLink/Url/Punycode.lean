namespace DeepLink.Url.Punycode

def digit? (c : Char) : Option Nat :=
  if 'a' ≤ c ∧ c ≤ 'z' then some (c.toNat - 97)
  else if '0' ≤ c ∧ c ≤ '9' then some (c.toNat - 22)
  else none

def threshold (k bias : Nat) : Nat := min 26 (max 1 (k - bias))

def shrink (k delta : Nat) : Nat :=
  if h : 455 < delta then shrink (k + 36) (delta / 35) else k + 36 * delta / (delta + 38)
termination_by delta
decreasing_by exact Nat.div_lt_self (by omega) (by omega)

def adapt (delta points : Nat) (first : Bool) : Nat :=
  let delta := if first then delta / 700 else delta / 2
  shrink 0 (delta + delta / points)

def difference (bias k weight sum : Nat) : List Char → Option (Nat × List Char)
  | [] => none
  | c :: s => do
    let d ← digit? c
    let sum := sum + d * weight
    let t := threshold k bias
    if 0x100000000 ≤ sum then none
    else if d < t then some (sum, s)
    else if 0x100000000 ≤ weight * (36 - t) then none
    else difference bias (k + 36) (weight * (36 - t)) sum s

theorem difference_length_lt {bias k weight sum n : Nat} {s r : List Char}
    (h : difference bias k weight sum s = some (n, r)) : r.length < s.length := by
  induction s generalizing k weight sum with
  | nil => simp [difference] at h
  | cons c s ih =>
    simp only [difference] at h
    cases hd : digit? c with
    | none => simp [hd] at h
    | some d =>
      simp only [hd, Option.bind_eq_bind, Option.bind_some] at h
      split at h
      · simp at h
      split at h
      · simp only [Option.some.injEq, Prod.mk.injEq] at h
        simp [← h.2]
      split at h
      · simp at h
      · exact Nat.lt_succ_of_lt (ih h)

def insertAll (point index bias : Nat) (first : Bool) (out : List Nat) (s : List Char) : Option (List Nat) :=
  if s.isEmpty then some out
  else
    match h : difference bias 36 1 index s with
    | none => none
    | some (spot, r) =>
      have := difference_length_lt h
      let size := out.length + 1
      let point := point + spot / size
      let place := spot % size
      if point < 0x110000 ∧ ¬ (0xD800 ≤ point ∧ point ≤ 0xDFFF) then
        insertAll point (place + 1) (adapt (spot - index) size first) false
          (out.take place ++ point :: out.drop place) r
      else none
termination_by s.length

def parts (s : List Char) : List Char × List Char :=
  let digits := (s.reverse.takeWhile (· ≠ '-')).reverse
  if digits.length + 1 = s.length then ([], s)
  else (s.take (s.length - digits.length - 1), digits)

def decode? (s : List Char) : Option (List Char) :=
  let (basic, digits) := parts s
  (insertAll 128 0 72 true (basic.map Char.toNat) digits).map (·.map Char.ofNat)

end DeepLink.Url.Punycode
