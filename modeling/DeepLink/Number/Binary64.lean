namespace DeepLink

inductive Binary64 where
  | nan
  | infinite (negative : Bool)
  | finite (negative : Bool) (mantissa : Nat) (exponent : Int)
deriving DecidableEq, Repr

namespace Binary64

def scale (mantissa : Nat) : Int → Rat
  | .ofNat k => (mantissa <<< k : Nat)
  | .negSucc k => mkRat mantissa (1 <<< (k + 1))

def value : Binary64 → Option Rat
  | finite negative m e => some (if negative then -scale m e else scale m e)
  | _ => none

inductive Tie where
  | even | upper
deriving DecidableEq, Repr

def nearest (tie : Tie) (a b : Nat) : Nat :=
  let q := a / b
  let r := 2 * (a % b)
  if r < b || (r == b && tie == .even && q % 2 == 0) then q else q + 1

def leastExponent : Int := -1074

def greatestExponent : Int := 971

def exponentFor (a b : Nat) : Int :=
  let k : Int := (Nat.log2 a : Int) - Nat.log2 b
  let below := if k < 0 then a <<< (-k).toNat < b else a < b <<< k.toNat
  max (if below then k - 53 else k - 52) leastExponent

def mantissaAt (a b : Nat) : Int → Nat
  | .ofNat k => nearest .even a (b <<< k)
  | .negSucc k => nearest .even (a <<< (k + 1)) b

def assemble (negative : Bool) (m : Nat) (e : Int) : Binary64 :=
  let (m, e) := if m == 1 <<< 53 then (1 <<< 52, e + 1) else (m, e)
  if e > greatestExponent then infinite negative else finite negative m e

def ofRatio (negative : Bool) (a b : Nat) : Binary64 :=
  if a == 0 then finite negative 0 leastExponent
  else assemble negative (mantissaAt a b (exponentFor a b)) (exponentFor a b)

def ofNat (n : Nat) : Binary64 := ofRatio false n 1

def ofInt (i : Int) : Binary64 := ofRatio (i < 0) i.natAbs 1

def zero : Binary64 := ofNat 0

def neg : Binary64 → Binary64
  | nan => nan
  | infinite s => infinite !s
  | finite s m e => finite (!s) m e

def isZero : Binary64 → Bool
  | finite _ m _ => m == 0
  | _ => false

def isFinite (x : Binary64) : Bool := x.value.isSome

def ratio (m : Nat) : Int → Nat × Nat
  | .ofNat k => (m <<< k, 1)
  | .negSucc k => (m, 1 <<< (k + 1))

def mul : Binary64 → Binary64 → Binary64
  | finite _ m e, finite _ n f =>
    ofRatio false ((ratio m e).1 * (ratio n f).1) ((ratio m e).2 * (ratio n f).2)
  | _, _ => nan

def div : Binary64 → Binary64 → Binary64
  | finite _ m e, finite _ n f =>
    ofRatio false ((ratio m e).1 * (ratio n f).2) ((ratio m e).2 * (ratio n f).1)
  | _, _ => nan

def tens : Nat := 308

/-- A significand scaled by a power of ten, each step rounded: the significand, the power, then the
product or quotient. `none` if it is too large. -/
def ofDecimal (significand : Nat) (exponent : Int) : Option Binary64 :=
  go (ofNat significand) exponent
where
  go (x : Binary64) (exponent : Int) : Option Binary64 :=
    if exponent.natAbs ≤ tens then
      let power := ofNat (Nat.pow 10 exponent.natAbs)
      if exponent < 0 then some (x.div power)
      else
        let y := x.mul power
        if y.isFinite then some y else none
    else if x.isZero then some x
    else if 0 ≤ exponent then none
    else go (x.div (ofNat (Nat.pow 10 tens))) (exponent + tens)
  termination_by exponent.natAbs
  decreasing_by simp only [tens] at *; omega

def above (n : Nat) : Binary64 → Bool
  | nan => false
  | infinite negative => !negative
  | finite negative m e => (n : Rat) < if negative then -scale m e else scale m e

def within (low high : Nat) (x : Binary64) : Bool :=
  match x.value with
  | some v => (low : Rat) ≤ v && v ≤ (high : Rat)
  | none => false

end Binary64

end DeepLink
