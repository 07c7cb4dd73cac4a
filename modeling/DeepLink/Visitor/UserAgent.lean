import DeepLink.Rules.Os
import DeepLink.Text.Blank
import DeepLink.Text.Split
import DeepLink.Text.Utf8

/-!
User agents: products, and comments in parentheses that may hold comments. `split` reads a whole text,
`classify` tells the system, also of a text that is cut off.
-/

namespace DeepLink.UserAgent

inductive Token where
  | product (text : List Char)
  | comment (inner : List Char)
deriving DecidableEq, Repr

inductive Fault where
  | unbalanced (offset : Nat)
  | tooDeep (offset : Nat)
deriving DecidableEq, Repr

def depthLimit : Nat := 32

def Fault.message : Fault → String
  | unbalanced offset => s!"unbalanced parentheses in user agent at byte {offset}"
  | tooDeep offset => s!"comments nested deeper than {depthLimit} levels at byte {offset}"

def afterClose? : List Char → Option (List Char)
  | ')' :: r => some r
  | _ => none

theorem afterClose?_eq_some_iff {s r : List Char} : afterClose? s = some r ↔ s = ')' :: r := by
  fun_cases afterClose? s with
  | case1 t => simp
  | case2 s h => exact ⟨nofun, fun e => absurd e (h r)⟩

theorem afterClose?_length_lt {s r : List Char} (h : afterClose? s = some r) : r.length < s.length := by
  rw [afterClose?_eq_some_iff.1 h]
  exact Nat.lt_succ_self _

/-- What is left of a text after the longest start of it that can stand in a comment: all up to a
closing parenthesis without its opening one, or an opening one without its closing one. -/
def skipInner : (s : List Char) → { r : List Char // r.length ≤ s.length }
  | [] => ⟨[], Nat.le_refl _⟩
  | c :: s =>
    if c = ')' then ⟨c :: s, Nat.le_refl _⟩
    else if c = '(' then
      match h : afterClose? (skipInner s).1 with
      | some r =>
        have : r.length < s.length + 1 :=
          Nat.lt_succ_of_lt (Nat.lt_of_lt_of_le (afterClose?_length_lt h) (skipInner s).2)
        ⟨(skipInner r).1, Nat.le_trans (skipInner r).2 (Nat.le_of_lt this)⟩
      | none => ⟨c :: s, Nat.le_refl _⟩
    else ⟨(skipInner s).1, Nat.le_succ_of_le (skipInner s).2⟩
termination_by s => s.length
decreasing_by all_goals simp only [List.length_cons]; omega

def afterInner (s : List Char) : List Char := (skipInner s).1

theorem afterInner_length_le (s : List Char) : (afterInner s).length ≤ s.length := (skipInner s).2

theorem afterInner_nil : afterInner [] = [] := by simp [afterInner, skipInner]

theorem afterInner_close (s : List Char) : afterInner (')' :: s) = ')' :: s := by
  simp [afterInner, skipInner]

theorem afterInner_plain {c : Char} (ho : c ≠ '(') (hc : c ≠ ')') (s : List Char) :
    afterInner (c :: s) = afterInner s := by
  simp [afterInner, skipInner, ho, hc]

theorem afterInner_open {s r : List Char} (h : afterInner s = ')' :: r) :
    afterInner ('(' :: s) = afterInner r := by
  unfold afterInner at h ⊢
  rw [skipInner]
  simp only [show ('(' : Char) ≠ ')' by decide, if_false, if_true]
  split
  · next t ht =>
    rw [afterClose?_eq_some_iff.2 h, Option.some.injEq] at ht
    rw [ht]
  · next hn => simp [afterClose?_eq_some_iff.2 h] at hn

theorem afterInner_stuck {s : List Char} (h : ∀ r, afterInner s ≠ ')' :: r) :
    afterInner ('(' :: s) = '(' :: s := by
  unfold afterInner at h ⊢
  rw [skipInner]
  simp only [show ('(' : Char) ≠ ')' by decide, if_false, if_true]
  split
  · next r hr => exact absurd (afterClose?_eq_some_iff.1 hr) (h r)
  · rfl

def comment? (s : List Char) : Option (List Char × List Char) :=
  (afterClose? (afterInner s)).map fun r => (s.take (s.length - (r.length + 1)), r)

theorem comment?_length_lt {s inner r : List Char} (h : comment? s = some (inner, r)) :
    r.length < s.length := by
  obtain ⟨t, ht, e⟩ := Option.map_eq_some_iff.1 h
  obtain rfl : t = r := congrArg Prod.snd e
  exact Nat.lt_of_lt_of_le (afterClose?_length_lt ht) (afterInner_length_le s)

def isPlain (c : Char) : Bool := !(Text.isBlank c || c = '(' || c = ')')

/-- The tokens of the longest start of a text that has any, and the text after them. White space comes
before the text no more. -/
def tokens : List Char → List Token × List Char
  | [] => ([], [])
  | c :: s =>
    if c = ')' then ([], c :: s)
    else if c = '(' then
      match h : comment? s with
      | some (inner, r) =>
        have : (Text.trimStart r).length < s.length + 1 :=
          Nat.lt_succ_of_le (Nat.le_trans (Text.trimStart_length_le r) (Nat.le_of_lt (comment?_length_lt h)))
        let (ts, rest) := tokens (Text.trimStart r)
        (.comment inner :: ts, rest)
      | none => ([], c :: s)
    else
      have : (Text.trimStart (s.dropWhile isPlain)).length < s.length + 1 :=
        Nat.lt_succ_of_le (Nat.le_trans (Text.trimStart_length_le _) (List.dropWhile_sublist _).length_le)
      let (ts, rest) := tokens (Text.trimStart (s.dropWhile isPlain))
      (.product (c :: s.takeWhile isPlain) :: ts, rest)
termination_by s => s.length

def tooDeep? (depth offset : Nat) : List Char → Option Nat
  | [] => none
  | c :: s =>
    if c = '(' then
      if depth + 1 > depthLimit then some offset else tooDeep? (depth + 1) (offset + 1) s
    else if c = ')' then tooDeep? (depth - 1) (offset + 1) s
    else tooDeep? depth (offset + c.utf8Size) s

def split (s : List Char) : Except Fault (List Token) :=
  match tooDeep? 0 0 s with
  | some offset => .error (.tooDeep offset)
  | none =>
    match tokens (Text.trimStart s) with
    | (ts, []) => .ok ts
    | (_, rest) => .error (.unbalanced (Utf8.size s - Utf8.size rest))

def Token.product? : Token → Option (List Char)
  | product text => some text
  | comment _ => none

def Token.comment? : Token → Option (List Char)
  | comment inner => some inner
  | product _ => none

def products (ts : List Token) : List (List Char) := ts.filterMap Token.product?

def comments (ts : List Token) : List (List Char) := ts.filterMap Token.comment?

def appleDevices : List (List Char) := ["iPhone".toList, "iPad".toList, "iPod".toList]

def androidName : List Char := "Android".toList

def segments (ts : List Token) : List (List Char) :=
  ((comments ts).flatMap (Text.split ';') ++ products ts).map Text.trim

def choose (apple android : Bool) : Os := if apple then .iOS else if android then .android else .desktop

def os (ts : List Token) : Os :=
  choose ((segments ts).any fun s => appleDevices.any (·.isPrefixOf s))
    ((segments ts).any (androidName.isPrefixOf ·))

def scan (s : List Char) : Os :=
  choose (appleDevices.any (Text.contains · s)) (Text.contains androidName s)

def classify (text : String) : Os :=
  match split text.toList with
  | .ok ts => os ts
  | .error _ => scan text.toList

end DeepLink.UserAgent
