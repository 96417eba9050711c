/-!
# Errors of JSON text

Why a text could not be read as JSON, and where.
-/

namespace ControlSurface.Json

/-- What is wrong with a text at the place where reading it stopped. -/
inductive Flaw where
  | byteOrderMark
  | noValue
  | noPropertyName
  | noColon
  | noComma
  | unterminatedString
  | controlCharacter
  | badEscape
  | badUnicodeEscape
  | extraData
deriving DecidableEq, Repr

/-- The wording of a flaw. -/
def Flaw.message : Flaw → String
  | .byteOrderMark => "Unexpected UTF-8 BOM (decode using utf-8-sig)"
  | .noValue => "Expecting value"
  | .noPropertyName => "Expecting property name enclosed in double quotes"
  | .noColon => "Expecting ':' delimiter"
  | .noComma => "Expecting ',' delimiter"
  | .unterminatedString => "Unterminated string starting at"
  | .controlCharacter => "Invalid control character at"
  | .badEscape => "Invalid \\escape"
  | .badUnicodeEscape => "Invalid \\uXXXX escape"
  | .extraData => "Extra data"

/-- A place in a text: the number of characters before it, its line and its column, the last two
counted from one. -/
structure Place where
  offset : Nat
  line : Nat
  column : Nat
deriving DecidableEq, Repr

/-- The place after a number of characters. Only a line feed begins a new line. -/
def Place.after (text : List Char) (offset : Nat) : Place :=
  let before := text.take offset
  { offset
    line := before.count '\n' + 1
    column := (before.reverse.takeWhile (· ≠ '\n')).length + 1 }

/-- A value that holds further values. -/
inductive Container where
  | list
  | object
deriving DecidableEq, Repr

/-- How a container is called in messages. -/
def Container.name : Container → String
  | .list => "array"
  | .object => "object"

/-- Why a text could not be read: it is malformed at some place, it holds an integer of more digits
than are read, or a container lies too deep in others. -/
inductive Error where
  | malformed (flaw : Flaw) (place : Place)
  | integerTooLong (digits : Nat)
  | tooNested (container : Container)
deriving DecidableEq, Repr

/-- The most digits that an integer may have. -/
def maxDigits : Nat := 4300

/-- The wording for an integer of too many digits. -/
def tooLongMessage (digits : Nat) : String :=
  s!"Exceeds the limit ({maxDigits} digits) for integer string conversion: value has " ++
    s!"{digits} digits; use sys.set_int_max_str_digits() to increase the limit"

/-- The most containers that may lie in one another in a text on its own. -/
def maxNesting : Nat := 980

/-- The wording for a container that lies too deep in others. -/
def tooNestedMessage (container : Container) : String :=
  s!"maximum recursion depth exceeded while decoding a JSON {container.name} from a unicode string"

/-- The wording of an error. -/
def Error.message : Error → String
  | .malformed flaw p => flaw.message ++ s!": line {p.line} column {p.column} (char {p.offset})"
  | .integerTooLong digits => tooLongMessage digits
  | .tooNested container => tooNestedMessage container

end ControlSurface.Json
