/-!
# Binary64 numbers

Double-precision numbers as exact data: a sign, a significand and the power of two it counts,
beside the two infinities and the one value that is not a number. Every operation is exact integer
arithmetic followed by one rounding to the nearest number, ties to the even significand.
-/

namespace ControlSurface

/-- A double-precision number. A finite one stands for `±significand * 2 ^ exponent`. -/
inductive Binary64 where
  | nan
  | infinite (negative : Bool)
  | finite (negative : Bool) (significand : Nat) (exponent : Int)
deriving DecidableEq, Repr

namespace Binary64

/-- The exponent of the smallest positive number, below which nothing is resolved. -/
def leastExponent : Int := -1074

/-- The exponent of the largest finite numbers. -/
def greatestExponent : Int := 971

/-- The bound that all significands are below: they have at most 53 bits. -/
def significandBound : Nat := Nat.pow 2 53

/-- The least significand of 53 bits. -/
def leastFull : Nat := Nat.pow 2 52

/-- A zero of the given sign. -/
def zero (negative : Bool) : Binary64 := .finite negative 0 leastExponent

/-! ### Rounding a ratio -/

/-- The ratio `num / den` counted in units of `base ^ exponent`, again as a ratio. -/
def inUnits (base num den : Nat) (exponent : Int) : Nat × Nat :=
  if 0 ≤ exponent then (num, den * base.pow exponent.toNat)
  else (num * base.pow (-exponent).toNat, den)

/-- The integer nearest to `num / den`, the even one of two that are equally near. -/
def divNearest (num den : Nat) : Nat :=
  let quotient := num / den
  let remainder := num % den
  if 2 * remainder < den ∨ (2 * remainder = den ∧ quotient % 2 = 0) then quotient else quotient + 1

/-- The exponent at which `num / den` has 53 significant bits, or the least one there is. -/
def exponentOf (num den : Nat) : Int :=
  let guess : Int := (num.log2 : Int) - (den.log2 : Int) - 53
  let (n, d) := inUnits 2 num den guess
  max leastExponent (if n / d < significandBound then guess else guess + 1)

/-- The number nearest to `±num / den`, infinite when that is out of range. -/
def ofRatio (negative : Bool) (num den : Nat) : Binary64 :=
  if num = 0 then zero negative else
    let exponent := exponentOf num den
    let (n, d) := inUnits 2 num den exponent
    let significand := divNearest n d
    let (significand, exponent) :=
      if significand = significandBound then (leastFull, exponent + 1) else (significand, exponent)
    if greatestExponent < exponent then .infinite negative
    else .finite negative significand exponent

/-- The number nearest to `±digits * 10 ^ exponent`. Decimal numbers of a magnitude far outside the
range are settled by their length in bits, each place after the point being worth three bits or
more, so that no power is computed that is much longer than the digits. -/
def ofDecimal (negative : Bool) (digits : Nat) (exponent : Int) : Binary64 :=
  if digits = 0 ∨ (digits.log2 : Int) + 3 * exponent < leastExponent - 6 then zero negative
  else if 330 < exponent then .infinite negative
  else
    let (num, den) := inUnits 10 digits 1 (-exponent)
    ofRatio negative num den

/-- The number nearest to an integer, infinite when that is out of range. -/
def ofInt (n : Int) : Binary64 := ofRatio (n < 0) n.natAbs 1

/-! ### Exact values -/

/-- Whether the number is a zero of either sign. -/
def isZero : Binary64 → Bool
  | .finite _ significand _ => significand == 0
  | _ => false

/-- Whether the number is neither infinite nor undefined. -/
def isFinite : Binary64 → Bool
  | .finite .. => true
  | _ => false

/-- The signed significand counted at a lower exponent. -/
def signedAt (negative : Bool) (significand : Nat) (exponent lower : Int) : Int :=
  let magnitude : Int := (significand * Nat.pow 2 (exponent - lower).toNat : Nat)
  if negative then -magnitude else magnitude

/-- The exact value of a finite number. -/
def toRat? : Binary64 → Option Rat
  | .finite negative significand exponent =>
    some (mkRat (signedAt negative significand exponent (min exponent 0))
      (Nat.pow 2 (-exponent).toNat))
  | _ => none

/-- The integer a number is equal to, if there is one. -/
def toInt? (x : Binary64) : Option Int :=
  x.toRat?.bind fun value => if value.den = 1 then some value.num else none

/-- Where a number stands on the line that ends with the two infinities: its side, which is nought
for all finite numbers, and the value of these. -/
def position? : Binary64 → Option (Int × Rat)
  | .nan => none
  | .infinite negative => some (if negative then -1 else 1, 0)
  | x => x.toRat?.map fun value => (0, value)

/-! ### Addition -/

/-- The rounded sum. Two zeros, or two opposite numbers, add up to a negative zero only if both are
negative. -/
def add : Binary64 → Binary64 → Binary64
  | .nan, _ => .nan
  | _, .nan => .nan
  | .infinite s, .infinite t => if s = t then .infinite s else .nan
  | .infinite s, .finite .. => .infinite s
  | .finite .., .infinite t => .infinite t
  | .finite s m e, .finite t n f =>
    let lower := min e f
    let sum := signedAt s m e lower + signedAt t n f lower
    if sum = 0 then zero (s && t)
    else
      let (num, den) := inUnits 2 sum.natAbs 1 (-lower)
      ofRatio (sum < 0) num den

/-- The number with the other sign. -/
def neg : Binary64 → Binary64
  | .nan => .nan
  | .infinite negative => .infinite !negative
  | .finite negative significand exponent => .finite (!negative) significand exponent

/-- The rounded difference. -/
def sub (x y : Binary64) : Binary64 := x.add y.neg

end Binary64

end ControlSurface
