import ControlSurface.Numeric.Decimal
import ControlSurface.Text.Quoted
import ControlSurface.Value

/-!
# Values as text

A value is shown in two ways: as plain text, where a text stands for itself, and as a literal,
where texts are quoted. Inside lists and objects everything is a literal.
-/

namespace ControlSurface.Value

/-- Numbers are positional from a ten-thousandth up to, but not including, ten to the sixteenth,
and have at least two digits of exponent otherwise. -/
def numberLayout : Decimal.Layout where
  positionalFrom := -4
  positionalBelow := 16
  exponentDigits := 2

mutual

/-- A value as a literal. -/
def literal : Value → String
  | .null => "None"
  | .bool b => if b then "True" else "False"
  | .int n => toString n
  | .float x => x.write numberLayout
  | .str s => Text.quoted s
  | .arr items => "[" ++ ", ".intercalate (literals items) ++ "]"
  | .obj fields => "\x7b" ++ ", ".intercalate (fieldLiterals fields) ++ "\x7d"

/-- The literals of the items of a list. -/
def literals : List Value → List String
  | [] => []
  | v :: rest => v.literal :: literals rest

/-- The fields of an object, keys and values as literals. -/
def fieldLiterals : List (String × Value) → List String
  | [] => []
  | (k, v) :: rest => (Text.quoted k ++ ": " ++ v.literal) :: fieldLiterals rest

end

/-- A value as plain text. -/
def text : Value → String
  | .str s => s
  | v => v.literal

end ControlSurface.Value
