import ControlSurface.Text.Ascii

/-!
# Addresses

The address of a request is put together from the host it names and its path, and what is decided
about a request is decided about the path of that address.
-/

namespace ControlSurface.Url

/-! ### Paths -/

/-- A path as it stands in an address: it begins with a slash, and what would end it there is
escaped. -/
def rooted (path : String) : List Char :=
  let escaped := path.toList.flatMap fun c =>
    if c = '?' then "%3F".toList else if c = '#' then "%23".toList else [c]
  if escaped.head? = some '/' then escaped else '/' :: escaped

/-- The address of a path on a host. -/
def address (host path : String) : String := "http://" ++ host ++ String.ofList (rooted path)

/-- The path of the address of a path. Tabs and line ends are no part of an address. -/
def pathOf (path : String) : String :=
  String.ofList ((rooted path).filter fun c => c ≠ '\t' && c ≠ '\r' && c ≠ '\n')

/-! ### Escapes -/

/-- The marks that stand for themselves in a written address, beside letters and digits. -/
def plainMarks : List Char := "_.-~:/%#?=@[]!$&\x27()*+,;".toList

/-- A hexadecimal digit. -/
def hexDigit (n : Nat) : Char := "0123456789ABCDEF".toList.getD n '0'

/-- A byte of a written address: as it is if it is an ASCII character that stands for itself,
otherwise escaped. -/
def writeByte (b : UInt8) : List Char :=
  let c := Char.ofNat b.toNat
  if b < 0x80 && (Ascii.isLetter c || Ascii.isDigit c || plainMarks.contains c) then [c]
  else ['%', hexDigit (b.toNat / 16), hexDigit (b.toNat % 16)]

/-- An address as it is written in a header. -/
def write (address : String) : String :=
  String.ofList (address.toUTF8.toList.flatMap writeByte)

end ControlSurface.Url
