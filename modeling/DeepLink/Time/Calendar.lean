namespace DeepLink

structure Date where
  year : Int
  month : Nat
  day : Nat
deriving DecidableEq, Repr

namespace Date

def isLeap (year : Int) : Bool := year % 4 = 0 && (year % 100 ≠ 0 || year % 400 = 0)

def daysIn (year : Int) (month : Nat) : Nat :=
  if month = 2 then (if isLeap year then 29 else 28)
  else if month = 4 ∨ month = 6 ∨ month = 9 ∨ month = 11 then 30
  else 31

def Valid (d : Date) : Prop := 1 ≤ d.month ∧ d.month ≤ 12 ∧ 1 ≤ d.day ∧ d.day ≤ daysIn d.year d.month

instance (d : Date) : Decidable d.Valid := by unfold Valid; infer_instance

-- from 1 March of year 0 to 1 January 1970
def epoch : Int := 719468

/-- The days since 1 January 1970. Years are counted from March, so that a leap day ends one. -/
def toDays (d : Date) : Int :=
  let y := if d.month ≤ 2 then d.year - 1 else d.year
  let m : Int := if d.month ≤ 2 then d.month + 9 else d.month - 3
  365 * y + y / 4 - y / 100 + y / 400 + (153 * m + 2) / 5 + (d.day - 1) - epoch

def yearOfCycle (day : Int) : Int := (day - day / 1460 + day / 36524 - day / 146096) / 365

def ofDays (days : Int) : Date :=
  let z := days + epoch
  let cycle := z / 146097
  let day := z % 146097
  let y := yearOfCycle day
  let rest := day - (365 * y + y / 4 - y / 100)
  let m := (5 * rest + 2) / 153
  let month := if m < 10 then m + 3 else m - 9
  { year := 400 * cycle + y + if month ≤ 2 then 1 else 0
    month := month.toNat
    day := (rest - (153 * m + 2) / 5 + 1).toNat }

end Date

end DeepLink
