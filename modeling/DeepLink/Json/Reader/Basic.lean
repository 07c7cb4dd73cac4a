import DeepLink.Json.Fault

namespace DeepLink.Json

abbrev Reading (α : Type) := Except Fault (α × List Char)

namespace Reading

def as {α β : Type} (f : α → β) : Reading α → Reading β
  | .ok (a, r) => .ok (f a, r)
  | .error e => .error e

theorem as_eq_ok {α β : Type} {f : α → β} {x : Reading α} {b : β} {r : List Char} :
    x.as f = .ok (b, r) ↔ ∃ a, x = .ok (a, r) ∧ f a = b := by
  rcases x with e | ⟨a, t⟩
  · simp [as]
  · simp only [as, Except.ok.injEq, Prod.mk.injEq]
    exact ⟨fun h => ⟨a, ⟨rfl, h.2⟩, h.1⟩, fun ⟨_, h, k⟩ => ⟨h.1 ▸ k, h.2⟩⟩

end Reading

structure Reader (α : Type) where
  read : List Char → Reading α
  shortens : ∀ {s : List Char} {a : α} {r : List Char}, read s = .ok (a, r) → r.length < s.length

def isSpace (c : Char) : Bool := c = ' ' || c = '\t' || c = '\n' || c = '\r'

def skip (s : List Char) : List Char := s.dropWhile isSpace

theorem length_dropWhile_le (p : Char → Bool) (s : List Char) : (s.dropWhile p).length ≤ s.length :=
  (List.dropWhile_suffix p).length_le

theorem skip_length_le (s : List Char) : (skip s).length ≤ s.length := length_dropWhile_le _ s

def literal {α : Type} (value : α) : List Char → List Char → Reading α
  | [], s => .ok (value, s)
  | _ :: _, [] => .error (.here .endInValue [])
  | x :: xs, c :: s => if x = c then literal value xs s else .error (.here .noIdent (c :: s))

theorem literal_length_le {α : Type} {value a : α} {xs s r : List Char}
    (h : literal value xs s = .ok (a, r)) : r.length ≤ s.length := by
  fun_induction literal value xs s with
  | case1 => simp_all
  | case2 => simp at h
  | case3 xs c s ih => exact Nat.le_succ_of_le (ih h)
  | case4 => simp at h

end DeepLink.Json
