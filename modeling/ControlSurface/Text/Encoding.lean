import ControlSurface.Text.CodeUnit

/-!
# Encodings of JSON text

JSON text may be sent in any of the encodings of Unicode. It begins with ASCII characters, so that
the zeros among its first bytes tell how wide a code unit is and which of its bytes comes first.
-/

namespace ControlSurface.Text

/-- Which byte of a code unit comes first. -/
inductive ByteOrder where
  | mostSignificant
  | leastSignificant
deriving DecidableEq, Repr

/-- How characters are laid out in bytes. -/
inductive Encoding where
  | utf8
  | utf16 (first : ByteOrder)
  | utf32 (first : ByteOrder)
deriving DecidableEq, Repr

/-- The encoding that the first four bytes of a text tell, or all of its bytes if it has fewer. -/
def Encoding.ofStart : List Nat → Encoding
  | [a, b] =>
    if a = 0 then .utf16 .mostSignificant
    else if b = 0 then .utf16 .leastSignificant
    else .utf8
  | [a, b, c, d] =>
    if a = 0 then if b = 0 then .utf32 .mostSignificant else .utf16 .mostSignificant
    else if b = 0 then
      if c = 0 ∧ d = 0 then .utf32 .leastSignificant else .utf16 .leastSignificant
    else .utf8
  | _ => .utf8

/-- The number of a code unit. -/
def ByteOrder.unit (first : ByteOrder) (bytes : List UInt8) : Nat :=
  let ordered := match first with
    | .mostSignificant => bytes
    | .leastSignificant => bytes.reverse
  ordered.foldl (fun n b => 256 * n + b.toNat) 0

/-- The code units of a text, unless the last one is cut off. -/
def units? (first : ByteOrder) (width : Nat) (content : ByteArray) : Option (List Nat) :=
  if content.size % width = 0 then
    some ((List.range (content.size / width)).map fun i =>
      first.unit (content.extract (i * width) ((i + 1) * width)).toList)
  else none

/-- The text that bytes stand for in an encoding. -/
def Encoding.decode? (content : ByteArray) : Encoding → Option String
  | .utf8 => String.fromUTF8? content
  | .utf16 first => (units? first 2 content).map fun units => String.ofList (ofUnits [] units)
  | .utf32 first =>
    (units? first 4 content).bind fun units =>
      if units.all fun unit => unit < 0x110000 then some (String.ofList (units.map ofUnit))
      else none

/-- The byte order mark in UTF-8. -/
def mark : List UInt8 := [0xef, 0xbb, 0xbf]

/-- The text of a JSON document. A byte order mark before it is skipped. -/
def decode? (content : ByteArray) : Option String :=
  if (content.extract 0 3).toList = mark then
    Encoding.decode? (content.extract 3 content.size) .utf8
  else
    Encoding.decode? content (.ofStart ((content.extract 0 4).toList.map UInt8.toNat))

end ControlSurface.Text
