import DeepLink.Text.Blank
import DeepLink.Number.Decimal
import DeepLink.Time.Instant

namespace DeepLink

structure Stamp where
  date : Date
  hour : Nat
  minute : Nat
  second : Nat
  nanos : Nat
  offset : Int
deriving DecidableEq, Repr

namespace Stamp

def instant? (s : Stamp) : Option Instant :=
  if s.date.Valid ∧ -262143 ≤ s.date.year ∧ s.date.year ≤ 262142 ∧ s.hour ≤ 23 ∧ s.minute ≤ 59 ∧
      s.second ≤ 60 ∧ s.offset.natAbs < 86400 then
    let day := 3600 * s.hour + 60 * s.minute + min s.second 59
    Instant.of? (86400 * s.date.toDays + day - s.offset)
      (if s.second = 60 then s.nanos + billion else s.nanos)
  else none

def digit (c : Char) : Nat := c.toNat - 48

def numberOf (ds : List Char) : Nat := ds.foldl (fun n c => n * 10 + digit c) 0

def short? (width : Nat) (s : List Char) : Option (Nat × List Char) :=
  let ds := (s.take width).takeWhile Char.isDigit
  if ds.isEmpty then none else some (numberOf ds, s.drop ds.length)

def fixed? (width : Nat) (s : List Char) : Option (Nat × List Char) :=
  let ds := s.take width
  if ds.length = width ∧ ds.all Char.isDigit then some (numberOf ds, s.drop width) else none

def after? (c : Char) : List Char → Option (List Char)
  | x :: s => if x = c then some s else none
  | [] => none

def afterDate? : List Char → Option (List Char)
  | 'T' :: s => some s
  | 't' :: s => some s
  | ' ' :: s => some s
  | _ => none

def fraction? : List Char → Option (Nat × List Char)
  | '.' :: s =>
    let ds := s.takeWhile Char.isDigit
    if ds.isEmpty then none
    else some (numberOf ((ds ++ List.replicate 9 '0').take 9), s.dropWhile Char.isDigit)
  | s => some (0, s)

def sign? : List Char → Option (Int × List Char)
  | '+' :: s => some (1, s)
  | '-' :: s => some (-1, s)
  | '\u2212' :: s => some (-1, s)
  | _ => none

def offset? (between : List Char → Option (List Char)) : List Char → Option (Int × List Char)
  | 'Z' :: s => some (0, s)
  | 'z' :: s => some (0, s)
  | s => do
    let (sign, s) ← sign? s
    let (hours, s) ← fixed? 2 s
    let s ← between s
    let (minutes, s) ← fixed? 2 s
    if minutes ≤ 59 then some (sign * (3600 * hours + 60 * minutes), s) else none

def strict? (s : List Char) : Option Stamp := do
  let (year, s) ← fixed? 4 s
  let s ← after? '-' s
  let (month, s) ← fixed? 2 s
  let s ← after? '-' s
  let (day, s) ← fixed? 2 s
  let s ← afterDate? s
  let (hour, s) ← fixed? 2 s
  let s ← after? ':' s
  let (minute, s) ← fixed? 2 s
  let s ← after? ':' s
  let (second, s) ← fixed? 2 s
  let (nanos, s) ← fraction? s
  let (offset, s) ← offset? (after? ':') s
  if s.isEmpty then some ⟨⟨year, month, day⟩, hour, minute, second, nanos, offset⟩ else none

def year? : List Char → Option (Int × List Char)
  | '-' :: s => (short? s.length s).map fun (n, s) => (-(n : Int), s)
  | '+' :: s => (short? s.length s).map fun (n, s) => ((n : Int), s)
  | s => (short? 4 s).map fun (n, s) => ((n : Int), s)

def spaced? (s : List Char) : Option (Nat × List Char) := short? 2 (Text.trimStart s)

def spacedAfter? (c : Char) (s : List Char) : Option (List Char) := after? c (Text.trimStart s)

def colons (s : List Char) : List Char := s.dropWhile fun c => c = ':' || Text.isBlank c

def zone? : List Char → Option (Int × List Char)
  | u :: t :: c :: s =>
    if u.toUpper = 'U' ∧ t.toUpper = 'T' ∧ c.toUpper = 'C' then some (0, s)
    else offset? (some ∘ colons) (u :: t :: c :: s)
  | s => offset? (some ∘ colons) s

def relaxed? (s : List Char) : Option Stamp := do
  let (year, s) ← year? (Text.trimStart s)
  let s ← spacedAfter? '-' s
  let (month, s) ← spaced? s
  let s ← spacedAfter? '-' s
  let (day, s) ← spaced? s
  let s ← afterDate? s
  let (hour, s) ← spaced? s
  let s ← spacedAfter? ':' s
  let (minute, s) ← spaced? s
  let s ← spacedAfter? ':' s
  let (second, s) ← spaced? s
  let (nanos, s) ← fraction? s
  let (offset, s) ← zone? (Text.trimStart s)
  if s.all Text.isBlank then some ⟨⟨year, month, day⟩, hour, minute, second, nanos, offset⟩ else none

end Stamp

namespace Instant

def strict? (text : String) : Option Instant := (Stamp.strict? text.toList).bind Stamp.instant?

def relaxed? (text : String) : Option Instant := (Stamp.relaxed? text.toList).bind Stamp.instant?

def pad : Nat → Nat → List Char
  | 0, _ => []
  | width + 1, n => pad width (n / 10) ++ [Char.ofNat (48 + n % 10)]

def yearText (y : Int) : List Char :=
  if 0 ≤ y ∧ y ≤ 9999 then pad 4 y.toNat
  else (if y < 0 then '-' else '+') :: (if y.natAbs ≤ 9999 then pad 4 y.natAbs else Decimal.numeral y.natAbs)

def shownNanos (t : Instant) : Nat := if t.nanos < billion then t.nanos else t.nanos - billion

def head (t : Instant) : List Char :=
  let d := t.date
  let second := t.clock % 60 + if t.nanos < billion then 0 else 1
  yearText d.year ++ '-' :: pad 2 d.month ++ '-' :: pad 2 d.day ++ 'T' :: pad 2 (t.clock / 3600) ++
    ':' :: pad 2 (t.clock / 60 % 60) ++ ':' :: pad 2 second

def fractionText (n : Nat) : List Char :=
  if n = 0 then []
  else if n % 1000000 = 0 then '.' :: pad 3 (n / 1000000)
  else if n % 1000 = 0 then '.' :: pad 6 (n / 1000)
  else '.' :: pad 9 n

def text (t : Instant) : String := String.ofList (t.head ++ fractionText t.shownNanos ++ ['Z'])

def textMillis (t : Instant) : String :=
  String.ofList (t.head ++ '.' :: pad 3 (t.shownNanos / 1000000) ++ ['Z'])

end Instant

end DeepLink
