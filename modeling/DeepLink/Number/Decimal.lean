import DeepLink.Number.Binary64

/-!
Decimal texts of binary numbers. `Decimal.shortest` has the fewest digits that round to the number, and
of those the nearest; `plain` and `compact` write them out.
-/

namespace DeepLink

structure Decimal where
  digits : Nat
  exponent : Int
deriving DecidableEq, Repr

namespace Decimal

def ratio : Decimal → Nat × Nat
  | ⟨d, .ofNat k⟩ => (d * Nat.pow 10 k, 1)
  | ⟨d, .negSucc k⟩ => (d, Nat.pow 10 (k + 1))

def toBinary (d : Decimal) : Binary64 := .ofRatio false d.ratio.1 d.ratio.2

def trim (d : Decimal) : Decimal :=
  if h : d.digits ≠ 0 ∧ d.digits % 10 = 0 then trim ⟨d.digits / 10, d.exponent + 1⟩ else d
termination_by d.digits
decreasing_by exact Nat.div_lt_self (by omega) (by omega)

def tenLe (t : Int) (a b : Nat) : Bool :=
  match t with
  | .ofNat k => Nat.pow 10 k * b ≤ a
  | .negSucc k => b ≤ a * Nat.pow 10 (k + 1)

def order (a b : Nat) : Int :=
  let bits : Int := (Nat.log2 a : Int) - Nat.log2 b
  let t := (bits - 2) * 1233 / 4096
  if tenLe (t + 2) a b then t + 2 else if tenLe (t + 1) a b then t + 1 else t

def units (a b : Nat) : Int → Nat × Nat
  | .ofNat k => (a, b * Nat.pow 10 k)
  | .negSucc k => (a * Nat.pow 10 (k + 1), b)

def neighbours (tie : Binary64.Tie) (a b : Nat) (k : Int) : List Decimal :=
  let (p, q) := units a b k
  let low := p / q
  let near := Binary64.nearest tie p q
  let far := if near == low then low + 1 else low
  [⟨near, k⟩, ⟨far, k⟩]

def exact (m : Nat) : Int → Decimal
  | .ofNat k => ⟨m <<< k, 0⟩
  | .negSucc k => ⟨m * Nat.pow 5 (k + 1), .negSucc k⟩

def search (tie : Binary64.Tie) (m : Nat) (e : Int) : Nat → Option Decimal
  | 0 => none
  | left + 1 =>
    let (a, b) := Binary64.ratio m e
    let k := order a b - (16 - left : Nat)
    match (neighbours tie a b k).find? (·.toBinary = .finite false m e) with
    | some d => some d
    | none => search tie m e left

/-- The fewest digits that round to `m * 2 ^ e`, the nearest of those. -/
def shortest (tie : Binary64.Tie) (m : Nat) (e : Int) : Decimal :=
  if m = 0 then ⟨0, 0⟩ else ((search tie m e 17).getD (exact m e)).trim

def numeral (n : Nat) : List Char := Nat.toDigits 10 n

def plain (d : Decimal) : List Char :=
  let ds := numeral d.digits
  match d.exponent with
  | .ofNat k => if d.digits = 0 then ds else ds ++ List.replicate k '0'
  | .negSucc k =>
    let places := k + 1
    if places < ds.length then ds.take (ds.length - places) ++ '.' :: ds.drop (ds.length - places)
    else '0' :: '.' :: List.replicate (places - ds.length) '0' ++ ds

def lead (d : Decimal) : Int := (numeral d.digits).length - 1 + d.exponent

def scientific (d : Decimal) : List Char :=
  let mantissa := match numeral d.digits with
    | [] => []
    | [c] => [c]
    | c :: cs => c :: '.' :: cs
  mantissa ++ 'e' :: (if d.lead < 0 then '-' else '+') :: numeral d.lead.natAbs

def compact (d : Decimal) : List Char :=
  if d.digits = 0 then "0.0".toList
  else if -5 ≤ d.lead && d.lead ≤ 15 then
    if d.exponent < 0 then d.plain else d.plain ++ ".0".toList
  else d.scientific

end Decimal

namespace Binary64

def signed (negative : Bool) (text : List Char) : List Char := if negative then '-' :: text else text

def compact : Binary64 → List Char
  | finite negative m e => signed negative (Decimal.shortest .even m e).compact
  | _ => "null".toList

def plain : Binary64 → List Char
  | nan => "NaN".toList
  | infinite negative => signed negative "inf".toList
  | finite negative m e => signed negative (Decimal.shortest .upper m e).plain

end Binary64

end DeepLink
