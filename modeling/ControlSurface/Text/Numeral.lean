import ControlSurface.Json.Error
import ControlSurface.Text.Blank
import ControlSurface.Text.Digit
import ControlSurface.Text.Quoted

/-!
# Integers in settings

An integer as people write it: white space around it, a sign before it, digits of any script, and
single low lines between digits.
-/

namespace ControlSurface.Text

/-- Why a text is no integer. -/
inductive NumeralError where
  | invalid (text : String)
  | tooLong (digits : Nat)
deriving DecidableEq, Repr

/-- The wording of an error, which shows at most two hundred characters of the literal. -/
def NumeralError.message : NumeralError → String
  | .invalid text =>
    "invalid literal for int() with base 10: " ++ String.ofList ((quoted text).toList.take 200)
  | .tooLong digits => Json.tooLongMessage digits

/-- Whether a character may stand around an integer: white space but for the four separators among
the control characters. -/
def isNumeralBlank (c : Char) : Bool := isBlank c && !(0x1c ≤ c.toNat && c.toNat ≤ 0x1f)

/-- Whether low lines stand between digits only, one at a time; `digit` tells whether a digit came
last. -/
def isGrouped : (digit : Bool) → List Char → Bool
  | digit, [] => digit
  | digit, c :: rest => if c = '_' then digit && isGrouped false rest else isGrouped true rest

/-- Reads an integer. The number of digits is judged before what follows them. -/
def readInt (text : String) : Except NumeralError Int :=
  let bare := stripped isNumeralBlank text.toList
  let negative := bare.head? = some '-'
  let unsigned := if negative || bare.head? = some '+' then bare.drop 1 else bare
  let isPart (c : Char) : Bool := c = '_' || (digitValue? c).isSome
  let run := unsigned.takeWhile isPart
  let digits := run.filterMap digitValue?
  if !isGrouped false run then .error (.invalid text)
  else if Json.maxDigits < digits.length then .error (.tooLong digits.length)
  else if run.length < unsigned.length then .error (.invalid text)
  else
    let magnitude : Int := (digits.foldl (fun n d => 10 * n + d) 0 : Nat)
    .ok (if negative then -magnitude else magnitude)

end ControlSurface.Text
