namespace DeepLink

-- 2 ^ 64 seconds less a nanosecond, in whole milliseconds
def longestSpan : Nat := 18446744073709551615999

structure Span where
  ms : Nat
  le_longest : ms ≤ longestSpan
deriving DecidableEq, Repr

namespace Span

def ofMillis (n : Nat) : Span := ⟨min n longestSpan, Nat.min_le_right _ _⟩

def add? (a b : Span) : Option Span :=
  if h : a.ms + b.ms ≤ longestSpan then some ⟨a.ms + b.ms, h⟩ else none

variable {a b : Span}

theorem add?_of_le (h : a.ms + b.ms ≤ longestSpan) : a.add? b = some ⟨a.ms + b.ms, h⟩ := dif_pos h

theorem add?_eq_none_iff : a.add? b = none ↔ longestSpan < a.ms + b.ms := by
  simp [add?]

end Span

end DeepLink
