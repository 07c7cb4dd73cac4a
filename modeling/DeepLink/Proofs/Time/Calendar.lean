import DeepLink.Time.Calendar
import Mathlib.Tactic.Common

namespace DeepLink.Date

/-- A day of a cycle of 400 years, by its century, its four years, its year in them and what is left. The
last day of the cycle is the leap day that ends it. -/
theorem cycle_parts {day : Int} (h : 0 ≤ day ∧ day < 146097) : ∃ c q r rest : Int,
    day = 36524 * c + 1461 * q + 365 * r + rest ∧ (0 ≤ c ∧ c ≤ 3) ∧ (0 ≤ q ∧ q ≤ 24) ∧
      (0 ≤ r ∧ r ≤ 3) ∧ 0 ≤ rest ∧ (rest ≤ 364 ∨ rest = 365 ∧ r = 3 ∧ (q ≠ 24 ∨ c = 3)) := by
  let c := min (day / 36524) 3
  let d := day - 36524 * c
  let q := d / 1461
  let e := d - 1461 * q
  let r := min (e / 365) 3
  have hc : (0 ≤ c ∧ c ≤ 3) ∧ 0 ≤ d ∧ (d ≤ 36523 ∨ d = 36524 ∧ c = 3) := by omega
  have hq : (0 ≤ q ∧ q ≤ 24) ∧ 0 ≤ e ∧ e ≤ 1460 ∧ (q = 24 → e ≤ 1459 ∨ c = 3) := by omega
  refine ⟨c, q, r, e - 365 * r, by omega, hc.1, hq.1, by omega, by omega, ?_⟩
  omega

theorem yearOfCycle_eq {c q r rest : Int} (hc : 0 ≤ c ∧ c ≤ 3) (hq : 0 ≤ q ∧ q ≤ 24)
    (hr : 0 ≤ r ∧ r ≤ 3) (h0 : 0 ≤ rest) (h1 : rest ≤ 364 ∨ rest = 365 ∧ r = 3 ∧ (q ≠ 24 ∨ c = 3)) :
    yearOfCycle (36524 * c + 1461 * q + 365 * r + rest) = 100 * c + 4 * q + r := by
  let day := 36524 * c + 1461 * q + 365 * r + rest
  -- A leap day moves the quotient by 1460 early, as the days before it in the cycle add up.
  obtain ⟨early, he⟩ : ∃ early : Int, early = if 1460 ≤ 24 * c + q + 365 * r + rest then 1 else 0 := ⟨_, rfl⟩
  have centuries : day / 36524 - day / 146096 = c := by
    by_cases last : c = 3 ∧ q = 24 ∧ r = 3 ∧ rest = 365
    · obtain ⟨rfl, rfl, rfl, rfl⟩ := last
      decide
    · have hd : 36524 * c ≤ day ∧ day < 36524 * c + 36524 := by omega
      have hb : day / 36524 = c := by omega
      have hl : day / 146096 = 0 := by omega
      omega
  have leaps : day / 1460 = 25 * c + q + early := by omega
  have split : day - day / 1460 + day / 36524 - day / 146096 =
      365 * (100 * c + 4 * q + r) + (rest - early) := by omega
  show (day - day / 1460 + day / 36524 - day / 146096) / 365 = _
  rw [split]
  omega

def dayOfYear (day : Int) : Int :=
  let y := yearOfCycle day
  day - (365 * y + y / 4 - y / 100)

theorem cycle_bounds {day : Int} (h : 0 ≤ day ∧ day < 146097) :
    let y := yearOfCycle day
    let rest := dayOfYear day
    0 ≤ y ∧ y ≤ 399 ∧ 0 ≤ rest ∧ (rest ≤ 364 ∨ rest = 365 ∧ isLeap (y + 1)) := by
  obtain ⟨c, q, r, rest, rfl, hc, hq, hr, h0, h1⟩ := cycle_parts h
  simp only [dayOfYear, yearOfCycle_eq hc hq hr h0 h1, isLeap]
  have hy4 : (100 * c + 4 * q + r) / 4 = 25 * c + q := by omega
  have hy100 : (100 * c + 4 * q + r) / 100 = c := by omega
  rw [hy4, hy100]
  refine ⟨by omega, by omega, by omega, ?_⟩
  rcases h1 with h1 | ⟨h1, h2, h3⟩
  · left
    omega
  · right
    refine ⟨by omega, ?_⟩
    have leap : (100 * c + 4 * q + r + 1) % 4 = 0 := by omega
    have century : (100 * c + 4 * q + r + 1) % 100 ≠ 0 ∨ (100 * c + 4 * q + r + 1) % 400 = 0 := by omega
    simp only [leap, decide_true, Bool.true_and, Bool.or_eq_true, decide_eq_true_eq]
    exact century

theorem month_bounds (rest : Int) (h : 0 ≤ rest ∧ rest ≤ 365) :
    let m := (5 * rest + 2) / 153
    0 ≤ m ∧ m ≤ 11 ∧ 0 ≤ rest - (153 * m + 2) / 5 ∧ rest - (153 * m + 2) / 5 ≤ 30 ∧
      (m = 1 ∨ m = 3 ∨ m = 6 ∨ m = 8 → rest - (153 * m + 2) / 5 ≤ 29) ∧
      (m = 11 → rest - (153 * m + 2) / 5 = rest - 337) := by
  intro m
  omega

theorem isLeap_add_cycles (cycles y : Int) : isLeap (400 * cycles + y + 1) = isLeap (y + 1) := by
  have h4 : (400 * cycles + y + 1) % 4 = (y + 1) % 4 := by omega
  have h100 : (400 * cycles + y + 1) % 100 = (y + 1) % 100 := by omega
  have h400 : (400 * cycles + y + 1) % 400 = (y + 1) % 400 := by omega
  rw [isLeap, isLeap, h4, h100, h400]

section

variable (days : Int)

theorem ofDays_parts : ∃ cycle y rest m : Int,
    days + epoch = 146097 * cycle + (365 * y + y / 4 - y / 100) + rest ∧ (0 ≤ y ∧ y ≤ 399) ∧
      0 ≤ rest ∧ (rest ≤ 364 ∨ rest = 365 ∧ isLeap (y + 1)) ∧ m = (5 * rest + 2) / 153 ∧
      ofDays days =
        { year := 400 * cycle + y + if m < 10 then 0 else 1
          month := (if m < 10 then m + 3 else m - 9).toNat
          day := (rest - (153 * m + 2) / 5 + 1).toNat } := by
  have hday : 0 ≤ (days + epoch) % 146097 ∧ (days + epoch) % 146097 < 146097 := by omega
  obtain ⟨hy0, hy1, hr0, hr1⟩ := cycle_bounds hday
  refine ⟨(days + epoch) / 146097, yearOfCycle ((days + epoch) % 146097),
    dayOfYear ((days + epoch) % 146097), _, ?_, ⟨hy0, hy1⟩, hr0, hr1, rfl, ?_⟩
  · simp only [dayOfYear]
    omega
  · obtain ⟨hm0, hm1, -⟩ := month_bounds (dayOfYear ((days + epoch) % 146097)) (by omega)
    simp only [ofDays, Date.mk.injEq]
    refine ⟨?_, rfl, rfl⟩
    simp only [dayOfYear] at hm0 hm1 ⊢
    split <;> split <;> omega

theorem toDays_ofDays : (ofDays days).toDays = days := by
  obtain ⟨cycle, y, rest, m, hz, hy, hr0, hr1, hm, he⟩ := ofDays_parts days
  obtain ⟨hm0, hm1, hd0, -⟩ := month_bounds rest (by omega)
  rw [← hm] at hm0 hm1 hd0
  rw [he, toDays]
  by_cases h : m < 10
  · simp only [h, ↓reduceIte]
    have hl : ¬ (m + 3).toNat ≤ 2 := by omega
    simp only [hl, ↓reduceIte]
    omega
  · simp only [h, ↓reduceIte]
    have hl : (m - 9).toNat ≤ 2 := by omega
    simp only [hl, ↓reduceIte]
    omega

theorem ofDays_valid : (ofDays days).Valid := by
  obtain ⟨cycle, y, rest, m, hz, hy, hr0, hr1, hm, he⟩ := ofDays_parts days
  obtain ⟨hm0, hm1, hd0, hd1, short, february⟩ := month_bounds rest (by omega)
  rw [← hm] at hm0 hm1 hd0 hd1 short february
  rw [he]
  refine ⟨?_, ?_, ?_, ?_⟩
  · dsimp only; split <;> omega
  · dsimp only; split <;> omega
  · dsimp only; omega
  · dsimp only [daysIn]
    by_cases february' : m = 11
    · have leap : isLeap (400 * cycle + y + 1) = isLeap (y + 1) := isLeap_add_cycles _ _
      have hr := february february'
      subst february'
      rcases hr1 with hr1 | ⟨hr1, hl⟩
      · simp
        split <;> omega
      · simp [leap, hl]
        omega
    · have hn : (if m < 10 then m + 3 else m - 9).toNat ≠ 2 := by split <;> omega
      simp only [hn, ↓reduceIte]
      by_cases hs : m = 1 ∨ m = 3 ∨ m = 6 ∨ m = 8
      · have hlen := short hs
        split <;> split <;> omega
      · have hl : ¬ ((if m < 10 then m + 3 else m - 9).toNat = 4 ∨ (if m < 10 then m + 3 else m - 9).toNat = 6 ∨
            (if m < 10 then m + 3 else m - 9).toNat = 9 ∨ (if m < 10 then m + 3 else m - 9).toNat = 11) := by
          split <;> omega
        simp only [hl, ↓reduceIte]
        omega

theorem year_le (h : days ≤ 95026236) : (ofDays days).year ≤ 262142 := by
  obtain ⟨cycle, y, rest, m, hz, hy, hr0, hr1, hm, he⟩ := ofDays_parts days
  rw [he]
  dsimp only
  rw [show epoch = 719468 from rfl] at hz
  split <;> omega

theorem le_year (h : -96465292 ≤ days) : -262143 ≤ (ofDays days).year := by
  obtain ⟨cycle, y, rest, m, hz, hy, hr0, hr1, hm, he⟩ := ofDays_parts days
  rw [he]
  dsimp only
  rw [show epoch = 719468 from rfl] at hz
  split <;> omega

end

end DeepLink.Date
