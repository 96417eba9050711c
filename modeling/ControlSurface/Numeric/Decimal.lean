import ControlSurface.Numeric.Binary64

/-!
# Shortest decimals

The decimal of fewest digits that rounds to a given double-precision number, and how a decimal is
laid out as text.
-/

namespace ControlSurface

/-- The positive decimal `coefficient * 10 ^ exponent`. -/
structure Decimal where
  coefficient : Nat
  exponent : Int
deriving DecidableEq, Repr

namespace Decimal

/-- How many digits a positive integer has. -/
def digitCount (n : Nat) : Nat := (toString n).length

/-- The number `p` with `10 ^ (p - 1) ≤ num / den < 10 ^ p`. -/
def pointOf (num den : Nat) : Int :=
  let guess : Int := (digitCount num : Int) - (digitCount den : Int)
  let (n, d) := Binary64.inUnits 10 num den guess
  if n < d then guess else guess + 1

/-- A coefficient without trailing zeros; `fuel` bounds how many are taken off. -/
def stripZeros : (fuel : Nat) → Decimal → Decimal
  | 0, x => x
  | fuel + 1, x =>
    if x.coefficient ≠ 0 ∧ x.coefficient % 10 = 0 then
      stripZeros fuel ⟨x.coefficient / 10, x.exponent + 1⟩
    else x

/-! ### The shortest decimal that reads back -/

/-- The numbers that round to a given one, in units of a quarter of its last place: `value` lies
between `low` and `high`, which themselves round to it when `closed`. The gap below a power of two
is half the gap above it. -/
structure Neighbourhood where
  low : Nat
  value : Nat
  high : Nat
  closed : Bool

/-- The neighbourhood of `significand * 2 ^ exponent`. -/
def Neighbourhood.of (significand : Nat) (exponent : Int) : Neighbourhood where
  low := 4 * significand -
    (if significand = Binary64.leastFull ∧ Binary64.leastExponent < exponent then 1 else 2)
  value := 4 * significand
  high := 4 * significand + 2
  closed := significand % 2 = 0

/-- On the grid of multiples of `10 ^ step`, the point nearest to the value that lies in its
neighbourhood, if any; of two equally near the even multiple. The neighbourhood is counted in units
of `unit / scale` grid steps. -/
def Neighbourhood.nearest? (near : Neighbourhood) (unit scale : Nat) : Option Nat :=
  let inside (c : Nat) : Bool :=
    if near.closed then near.low * unit ≤ c * scale && c * scale ≤ near.high * unit
    else near.low * unit < c * scale && c * scale < near.high * unit
  let below := near.value * unit / scale
  let above := below + 1
  let toBelow := near.value * unit - below * scale
  let toAbove := above * scale - near.value * unit
  match inside below, inside above with
  | true, true =>
    some (if toBelow < toAbove ∨ (toBelow = toAbove ∧ below % 2 = 0) then below else above)
  | true, false => some below
  | false, true => some above
  | false, false => none

/-- The decimal of fewest digits that rounds to the positive number `significand * 2 ^ exponent`,
and of those the nearest to it. Seventeen digits always suffice. -/
def shortest (significand : Nat) (exponent : Int) : Decimal :=
  let near := Neighbourhood.of significand exponent
  let (unit, scale) := Binary64.inUnits 2 1 1 (2 - exponent)
  let point := pointOf (near.value * unit) scale
  let found := (List.range 17).findSome? fun digits =>
    let step := point - (digits + 1 : Nat)
    let (u, s) := Binary64.inUnits 10 unit scale step
    (near.nearest? u s).map fun c => stripZeros 17 ⟨c, step⟩
  found.getD ⟨0, 0⟩

/-! ### Layout -/

/-- The decisions of a number format: a decimal is written positionally while the exponent of its
first digit is at least `positionalFrom` and below `positionalBelow`, and otherwise with an exponent
of at least `exponentDigits` digits. -/
structure Layout where
  positionalFrom : Int
  positionalBelow : Int
  exponentDigits : Nat

/-- A text of zeros. -/
def zeros (n : Nat) : String := String.ofList (List.replicate n '0')

/-- A natural number with leading zeros up to a width. -/
def padded (width n : Nat) : String := zeros (width - digitCount n) ++ toString n

/-- The text of a positive decimal. -/
def write (layout : Layout) (x : Decimal) : String :=
  let digits := (toString x.coefficient).toList
  let point : Int := (digits.length : Int) + x.exponent
  let first := point - 1
  if layout.positionalFrom ≤ first ∧ first < layout.positionalBelow then
    if 0 ≤ x.exponent then String.ofList digits ++ zeros x.exponent.toNat ++ ".0"
    else if 0 < point then
      String.ofList (digits.take point.toNat) ++ "." ++ String.ofList (digits.drop point.toNat)
    else "0." ++ zeros (-point).toNat ++ String.ofList digits
  else
    let fraction := digits.drop 1
    String.ofList (digits.take 1) ++
      (if fraction.isEmpty then "" else "." ++ String.ofList fraction) ++
      (if first < 0 then "e-" else "e+") ++ padded layout.exponentDigits first.natAbs

end Decimal

namespace Binary64

/-- The text of a number: its shortest decimal, with the sign of a negative zero kept. -/
def write (layout : Decimal.Layout) : Binary64 → String
  | .nan => "nan"
  | .infinite negative => if negative then "-inf" else "inf"
  | .finite negative significand exponent =>
    (if negative then "-" else "") ++
      (if significand = 0 then "0.0" else (Decimal.shortest significand exponent).write layout)

end Binary64

end ControlSurface
