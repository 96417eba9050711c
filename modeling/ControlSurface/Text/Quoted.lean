import ControlSurface.Text.Printable

/-!
# Quoted text

A text as a literal: between quotes, with everything escaped that would not be seen as itself.
-/

namespace ControlSurface.Text

/-- A number in hexadecimal, with leading zeros up to a width. -/
def hexPadded (width n : Nat) : String :=
  let digits := Nat.toDigits 16 n
  String.ofList (List.replicate (width - digits.length) '0' ++ digits)

/-- A character inside a literal with the given quote. -/
def escaped (quote c : Char) : String :=
  if c = '\\' ∨ c = quote then "\\" ++ c.toString
  else if c = '\n' then "\\n"
  else if c = '\r' then "\\r"
  else if c = '\t' then "\\t"
  else if isPrintable c then c.toString
  else if c.toNat < 0x100 then "\\x" ++ hexPadded 2 c.toNat
  else if c.toNat < 0x10000 then "\\u" ++ hexPadded 4 c.toNat
  else "\\U" ++ hexPadded 8 c.toNat

/-- The quote of a literal: the single one, unless only the double one can be left unescaped. -/
def quoteFor (s : List Char) : Char :=
  if s.contains '\x27' && !s.contains '\x22' then '\x22' else '\x27'

/-- The literal of a text. -/
def quoted (s : String) : String :=
  let quote := quoteFor s.toList
  quote.toString ++ String.join (s.toList.map (escaped quote)) ++ quote.toString

end ControlSurface.Text
