/-!
# Code units

Characters beyond the first 65536 are written as two code units of 16 bits, the halves of a pair.
-/

namespace ControlSurface.Text

/-- Whether a code unit is the first half of a pair. -/
def isHighHalf (unit : Nat) : Bool := 0xd800 ≤ unit && unit < 0xdc00

/-- Whether a code unit is the second half of a pair. -/
def isLowHalf (unit : Nat) : Bool := 0xdc00 ≤ unit && unit < 0xe000

/-- The character of a single code unit. Half a pair is none, and the replacement character stands
for it. -/
def ofUnit (unit : Nat) : Char :=
  if isHighHalf unit || isLowHalf unit then '\ufffd' else Char.ofNat unit

/-- The character of a pair of code units. -/
def ofPair (high low : Nat) : Char :=
  Char.ofNat (0x10000 + (high - 0xd800) * 0x400 + (low - 0xdc00))

/-- The characters of code units, after those already `done`, which are held in reverse. -/
def ofUnits (done : List Char) : List Nat → List Char
  | [] => done.reverse
  | [unit] => (ofUnit unit :: done).reverse
  | high :: low :: rest =>
    if isHighHalf high && isLowHalf low then ofUnits (ofPair high low :: done) rest
    else ofUnits (ofUnit high :: done) (low :: rest)

end ControlSurface.Text
