import DeepLink.Time.Calendar

/-!
Instants: seconds since 1970 in UTC and nanoseconds. A leap second is the second before it with a
thousand million nanoseconds more. The years go from -262143 to 262142.
-/

namespace DeepLink

def leastSecond : Int := -8334601228800

def greatestSecond : Int := 8210266876799

def billion : Nat := 1000000000

structure Instant where
  seconds : Int
  nanos : Nat
  inRange : leastSecond ≤ seconds ∧ seconds ≤ greatestSecond
  fraction : nanos < billion ∨ nanos < 2 * billion ∧ seconds % 60 = 59
deriving DecidableEq, Repr

namespace Instant

def of? (seconds : Int) (nanos : Nat) : Option Instant :=
  if h : (leastSecond ≤ seconds ∧ seconds ≤ greatestSecond) ∧
      (nanos < billion ∨ nanos < 2 * billion ∧ seconds % 60 = 59) then
    some ⟨seconds, nanos, h.1, h.2⟩
  else none

def le (a b : Instant) : Bool := a.seconds < b.seconds || (a.seconds = b.seconds && a.nanos ≤ b.nanos)

instance : LE Instant := ⟨fun a b => a.le b = true⟩

instance (a b : Instant) : Decidable (a ≤ b) := inferInstanceAs (Decidable (a.le b = true))

def date (t : Instant) : Date := .ofDays (t.seconds / 86400)

def clock (t : Instant) : Nat := (t.seconds % 86400).toNat

def year (t : Instant) : Int := t.date.year

end Instant

end DeepLink
