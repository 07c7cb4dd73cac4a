import DeepLink.Text.Case

namespace DeepLink.Text

def isBlank (c : Char) : Bool :=
  let n := c.toNat
  (9 ≤ n && n ≤ 13) || n == 0x20 || n == 0x85 || n == 0xA0 || n == 0x1680 ||
    (0x2000 ≤ n && n ≤ 0x200A) || n == 0x2028 || n == 0x2029 || n == 0x202F || n == 0x205F ||
    n == 0x3000

def trimStart (s : List Char) : List Char := s.dropWhile isBlank

def trimEnd (s : List Char) : List Char := (s.reverse.dropWhile isBlank).reverse

def trim (s : List Char) : List Char := trimEnd (trimStart s)

def allBlank (s : String) : Bool := s.toList.all isBlank

theorem isBlank_of_isAlpha {c : Char} (h : c.isAlpha) : isBlank c = false := by
  have letter : 65 ≤ c.toNat ∧ c.toNat ≤ 90 ∨ 97 ≤ c.toNat ∧ c.toNat ≤ 122 :=
    (Bool.or_eq_true_iff.1 h).imp isUpper_iff.1 isLower_iff.1
  simp only [isBlank, Bool.or_eq_false_iff, Bool.and_eq_false_iff, decide_eq_false_iff_not, beq_eq_false_iff_ne]
  omega

theorem allBlank_iff {s : String} : allBlank s ↔ ∀ c ∈ s.toList, isBlank c := by
  simp [allBlank, List.all_eq_true]

theorem stop_dropWhile {p : Char → Bool} {s : List Char} {c : Char} (h : c ∈ (s.dropWhile p).head?) : p c = false := by
  have stop := List.head?_dropWhile_not p s
  rw [Option.mem_def.1 h] at stop
  exact stop

theorem trimStart_length_le (s : List Char) : (trimStart s).length ≤ s.length :=
  (List.dropWhile_sublist _).length_le

theorem isInfix_trim (s : List Char) : trim s <:+: s := by
  have back : trimEnd (trimStart s) <+: trimStart s := by
    rw [← List.reverse_suffix, trimEnd, List.reverse_reverse]
    exact List.dropWhile_suffix _
  exact back.isInfix.trans (List.dropWhile_suffix _).isInfix

theorem trimStart_cons {c : Char} (h : isBlank c = false) (s : List Char) : trimStart (c :: s) = c :: s :=
  List.dropWhile_cons_of_neg (Bool.eq_false_iff.1 h)

theorem trimStart_append {gap : List Char} (h : ∀ c ∈ gap, isBlank c) (s : List Char) :
    trimStart (gap ++ s) = trimStart s := List.dropWhile_append_of_pos h

theorem trimStart_eq_self {s : List Char} (h : ∀ c ∈ s, isBlank c = false) : trimStart s = s := by
  cases s with
  | nil => rfl
  | cons c s => exact trimStart_cons (h c List.mem_cons_self) s

theorem trim_eq_self {s : List Char} (h : ∀ c ∈ s, isBlank c = false) : trim s = s := by
  have back : trimStart s.reverse = s.reverse := by
    apply trimStart_eq_self
    intro c hc
    exact h c (List.mem_reverse.1 hc)
  rw [trim, trimStart_eq_self h, trimEnd]
  exact (congrArg List.reverse back).trans (List.reverse_reverse s)

end DeepLink.Text
