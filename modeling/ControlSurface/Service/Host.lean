import ControlSurface.Text.Ascii

/-!
# Hosts

A request names the host that it is meant for: by a name, or by an address between brackets. A
number may follow the host behind a colon.
-/

namespace ControlSurface.Host

/-! ### Names -/

/-- The marks that may occur, beside letters and digits, in a name and in an address of the
future. -/
def marks : List Char := "-._~!$&\x27()*+,;=".toList

/-- Whether a character may occur in the name of a host. Escapes are not looked into. -/
def isNameChar (c : Char) : Bool :=
  Ascii.isLetter c || Ascii.isDigit c || marks.contains c || c = '%'

/-! ### Addresses -/

/-- The parts of a text that a mark separates. -/
def parts (mark : Char) (s : List Char) : List (List Char) :=
  s.foldr (fun c found =>
    if c = mark then [] :: found
    else match found with
      | [] => [[c]]
      | first :: others => (c :: first) :: others) [[]]

/-- Whether a text is a group of an address: up to four hexadecimal digits. -/
def isGroup (s : List Char) : Bool := !s.isEmpty && s.length ≤ 4 && s.all Ascii.isHexDigit

/-- Whether a text is a number below 256 without idle zeros. -/
def isOctet (s : List Char) : Bool :=
  !s.isEmpty && s.all Ascii.isDigit && (s.length = 1 || s.head? ≠ some '0') && Ascii.number s < 256

/-- Whether a text is four octets with dots between them. -/
def isDotted (s : List Char) : Bool := (parts '.' s).length = 4 && (parts '.' s).all isOctet

/-- How many groups are written one behind the other. Where an address ends, four octets may stand
for the last two. -/
def groupCount? (ends : Bool) : List (List Char) → Option Nat
  | [] => some 0
  | part :: rest =>
    if isGroup part then (groupCount? ends rest).map (· + 1)
    else if ends && rest.isEmpty && isDotted part then some 2
    else none

/-- How many groups a stretch of an address holds. -/
def stretch? (ends : Bool) (s : List Char) : Option Nat :=
  if s.isEmpty then some 0 else groupCount? ends (parts ':' s)

/-- The text before and after the first two colons in a row. -/
def aroundGap? : List Char → Option (List Char × List Char)
  | [] => none
  | c :: rest =>
    if c = ':' && rest.head? = some ':' then some ([], rest.drop 1)
    else (aroundGap? rest).map fun (before, after) => (c :: before, after)

/-- Whether a text is an address of eight groups. Two colons in a row stand for one or more groups
that are left out, and may occur once. -/
def isAddress (s : List Char) : Bool :=
  match aroundGap? s with
  | none => groupCount? true (parts ':' s) = some 8
  | some (before, after) =>
    match stretch? false before, stretch? true after with
    | some m, some n => m + n < 8
    | _, _ => false

/-- Whether a character may occur in an address of the future. -/
def isFutureChar (c : Char) : Bool :=
  Ascii.isLetter c || Ascii.isDigit c || marks.contains c || c = ':'

/-- Whether a text is an address of the future: the version that it is of, a dot, and what that
version writes. -/
def isFuture (s : List Char) : Bool :=
  let version := (s.drop 1).takeWhile Ascii.isHexDigit
  let rest := (s.drop 1).dropWhile Ascii.isHexDigit
  s.head? = some 'v' && !version.isEmpty && rest.head? = some '.' &&
    !(rest.drop 1).isEmpty && (rest.drop 1).all isFutureChar

/-! ### Hosts -/

/-- The greatest number that may follow a host. -/
def greatestNumber : Nat := 65535

/-- Whether a text is nothing, or such a number behind a colon. -/
def isNumberSuffix : List Char → Bool
  | [] => true
  | ':' :: digits =>
    !digits.isEmpty && digits.all Ascii.isDigit && Ascii.number digits ≤ greatestNumber
  | _ => false

/-- Whether a text is a host, which may have a number behind it. -/
def isHost (host : String) : Bool :=
  match host.toList with
  | '[' :: rest =>
    let address := rest.takeWhile (· ≠ ']')
    (isAddress address || isFuture address) && match rest.dropWhile (· ≠ ']') with
      | _ :: suffix => isNumberSuffix suffix
      | [] => false
  | name => !(name.takeWhile isNameChar).isEmpty && isNumberSuffix (name.dropWhile isNameChar)

end ControlSurface.Host
