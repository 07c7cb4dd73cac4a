import DeepLink.Json.Reader.Basic

namespace DeepLink.Json.Reader

def hexValue? (c : Char) : Option Nat :=
  if '0' ≤ c ∧ c ≤ '9' then some (c.toNat - 48)
  else if 'a' ≤ c ∧ c ≤ 'f' then some (c.toNat - 87)
  else if 'A' ≤ c ∧ c ≤ 'F' then some (c.toNat - 55)
  else none

def hex (s : List Char) : Reading Nat :=
  match s.take 4 |>.mapM hexValue? with
  | some [a, b, c, d] => .ok (((a * 16 + b) * 16 + c) * 16 + d, s.drop 4)
  | _ =>
    if Utf8.size s < 4 then .error (.here .endInString [])
    else .error ⟨.badEscape, Utf8.size s - 4⟩

theorem hex_length_le {s r : List Char} {n : Nat} (h : hex s = .ok (n, r)) : r.length ≤ s.length := by
  simp only [hex] at h
  split at h
  · simp only [Except.ok.injEq, Prod.mk.injEq] at h
    simp [← h.2]
  · split at h <;> simp at h

def trailing (high : Nat) : List Char → Reading Char
  | [] => .error (.here .endInString [])
  | '\\' :: [] => .error (.here .endInString [])
  | '\\' :: 'u' :: s =>
    match hex s with
    | .error e => .error e
    | .ok (low, r) =>
      if 0xDC00 ≤ low ∧ low ≤ 0xDFFF then
        .ok (Char.ofNat (0x10000 + (high - 0xD800) * 0x400 + (low - 0xDC00)), r)
      else .error (.before .loneSurrogate r)
  | '\\' :: s => .error (.here .halfSurrogate s)
  | s => .error (.here .halfSurrogate s)

theorem trailing_length_le {high : Nat} {s r : List Char} {c : Char}
    (h : trailing high s = .ok (c, r)) : r.length ≤ s.length := by
  unfold trailing at h
  split at h
  · simp at h
  · simp at h
  · split at h
    · simp at h
    · next hx =>
      have := hex_length_le hx
      split at h
      · simp only [Except.ok.injEq, Prod.mk.injEq] at h
        simp only [← h.2, List.length_cons]
        omega
      · simp at h
  · simp at h
  · simp at h

def unescape : List Char → Reading Char
  | [] => .error (.here .endInString [])
  | '"' :: s => .ok ('"', s)
  | '\\' :: s => .ok ('\\', s)
  | '/' :: s => .ok ('/', s)
  | 'b' :: s => .ok ('\x08', s)
  | 'f' :: s => .ok ('\x0c', s)
  | 'n' :: s => .ok ('\n', s)
  | 'r' :: s => .ok ('\r', s)
  | 't' :: s => .ok ('\t', s)
  | 'u' :: s =>
    match hex s with
    | .error e => .error e
    | .ok (n, r) =>
      if 0xDC00 ≤ n ∧ n ≤ 0xDFFF then .error (.before .loneSurrogate r)
      else if 0xD800 ≤ n ∧ n ≤ 0xDBFF then trailing n r
      else .ok (Char.ofNat n, r)
  | s => .error (.here .badEscape s)

theorem unescape_length_le {s r : List Char} {c : Char} (h : unescape s = .ok (c, r)) :
    r.length ≤ s.length := by
  unfold unescape at h
  split at h
  case h_10 s =>
    split at h
    · simp at h
    · next hx =>
      have := hex_length_le hx
      split at h
      · simp at h
      split at h
      · have := trailing_length_le h
        simp only [List.length_cons]
        omega
      · simp only [Except.ok.injEq, Prod.mk.injEq] at h
        simp only [← h.2, List.length_cons]
        omega
  all_goals grind

def stringTail : List Char → Reading (List Char)
  | [] => .error (.here .endInString [])
  | '"' :: s => .ok ([], s)
  | '\\' :: s =>
    match _h : unescape s with
    | .error e => .error e
    | .ok (c, r) => (stringTail r).as (c :: ·)
  | c :: s =>
    if c.toNat < 0x20 then .error (.here .controlCharacter (c :: s)) else (stringTail s).as (c :: ·)
termination_by s => s.length
decreasing_by
  · have := unescape_length_le _h
    simp only [List.length_cons]
    omega
  · simp

theorem stringTail_length_lt {s r cs : List Char} (h : stringTail s = .ok (cs, r)) :
    r.length < s.length := by
  fun_induction stringTail s generalizing cs with
  | case1 => simp at h
  | case2 => simp_all
  | case3 => simp at h
  | case4 s c t ht ih =>
    obtain ⟨_, hr, _⟩ := Reading.as_eq_ok.1 h
    have := ih hr
    have := unescape_length_le ht
    simp only [List.length_cons]
    omega
  | case5 => simp at h
  | case6 c s _ _ _ ih =>
    obtain ⟨_, hr, _⟩ := Reading.as_eq_ok.1 h
    exact Nat.lt_succ_of_lt (ih hr)

end DeepLink.Json.Reader
