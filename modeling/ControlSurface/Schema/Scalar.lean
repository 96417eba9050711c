import ControlSurface.Schema.Issue

/-!
# Scalars

The simple types of fields, and what is accepted for each of them: a flag may be written as a word
or a number, a pin is a number or a name.
-/

namespace ControlSurface.Schema

/-- The type of a simple field. -/
inductive Scalar where
  | text
  | flag
  | pin
deriving DecidableEq, Repr

namespace Scalar

/-- Texts are taken as they are. -/
def checkText : Value → Checked Value
  | .str s => .ok (.str s)
  | v => .problem v .notText

/-! ### Flags -/

/-- The words for true and for false. Only ASCII letters can differ in case from them. -/
def flagOfWord? (s : String) : Option Bool :=
  let word := s.toLower
  if ["0", "off", "f", "false", "n", "no"].contains word then some false
  else if ["1", "on", "t", "true", "y", "yes"].contains word then some true
  else none

/-- The number of integers of 64 bits that are not negative. -/
def wordBound : Nat := Nat.pow 2 63

/-- The integers of 64 bits. -/
def fitsWord (n : Int) : Bool := -(wordBound : Int) ≤ n && n < wordBound

/-- The flag that an integer stands for, which a value was given as. Nought and one are flags; other
integers cannot be interpreted, and those beyond 64 bits are not even tried. -/
def flagOfInt (v : Value) (n : Int) : Checked Value :=
  if n = 0 then .ok (.bool false)
  else if n = 1 then .ok (.bool true)
  else if fitsWord n then .problem v .unreadableFlag
  else .problem v .notFlag

/-- Whether a whole double-precision number is taken as an integer. -/
def isShortWhole (n : Int) : Bool := n.natAbs < wordBound

/-- What is accepted for a flag. -/
def checkFlag (v : Value) : Checked Value :=
  match v with
  | .bool b => .ok (.bool b)
  | .int n => flagOfInt v n
  | .float x => match x.toInt? with
    | some n => if isShortWhole n then flagOfInt v n else .problem v .notFlag
    | none => .problem v .notFlag
  | .str s => match flagOfWord? s with
    | some b => .ok (.bool b)
    | none => .problem v .unreadableFlag
  | _ => .problem v .notFlag

/-! ### Pins -/

/-- A value that is neither an acceptable number nor a text: both are reported. -/
def notPin (v : Value) (p : Problem) : Checked Value :=
  .error [⟨[.key "int"], p, v⟩, ⟨[.key "str"], .notText, v⟩]

/-- What is accepted for a pin or an address. A text is never read as a number. -/
def checkPin (v : Value) : Checked Value :=
  match v with
  | .str s => .ok (.str s)
  | .int n => .ok (.int n)
  | .bool b => .ok (.int (if b then 1 else 0))
  | .float x =>
    if !x.isFinite then notPin v .notFinite
    else match x.toInt? with
      | none => notPin v .fractional
      | some n => if isShortWhole n then .ok (.int n) else notPin v .integerTooLarge
  | _ => notPin v .notInteger

/-- What is accepted for a simple field, and what is made of it. -/
def check : Scalar → Value → Checked Value
  | .text => checkText
  | .flag => checkFlag
  | .pin => checkPin

end Scalar

end ControlSurface.Schema
