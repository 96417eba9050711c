import ControlSurface.Numeric.Digits

/-!
# ASCII letters and digits

The characters that the grammars of numbers, names and addresses are written with.
-/

namespace ControlSurface.Ascii

/-- Whether a character is an ASCII letter. -/
def isLetter (c : Char) : Bool := ('A' ≤ c && c ≤ 'Z') || ('a' ≤ c && c ≤ 'z')

/-- Whether a character is an ASCII digit. -/
def isDigit (c : Char) : Bool := '0' ≤ c && c ≤ '9'

/-- The value of a hexadecimal digit in either case. -/
def hexDigit? (c : Char) : Option Nat :=
  if isDigit c then some (c.toNat - '0'.toNat)
  else if 'a' ≤ c && c ≤ 'f' then some (c.toNat - 'a'.toNat + 10)
  else if 'A' ≤ c && c ≤ 'F' then some (c.toNat - 'A'.toNat + 10)
  else none

/-- Whether a character is a hexadecimal digit. -/
def isHexDigit (c : Char) : Bool := (hexDigit? c).isSome

/-- The number that decimal digits stand for. -/
def number (digits : List Char) : Nat :=
  Digits.value 10 (digits.reverse.map fun c => c.toNat - '0'.toNat)

end ControlSurface.Ascii
