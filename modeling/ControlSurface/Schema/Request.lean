import ControlSurface.Header
import ControlSurface.Schema.Hardware
import ControlSurface.Text.Ascii

/-!
# The schema of requests

A request carries a description, may name the struct and, if a file is asked for, the file. Other
fields are ignored.
-/

namespace ControlSurface.Schema

/-- The rule for a name: its greatest length, the characters that it may begin with and go on with,
and the pattern that says so in messages. -/
structure NameRule where
  maxLength : Nat
  pattern : String
  start : Char → Bool
  part : Char → Bool

/-- Names of structs are identifiers. -/
def structNameRule : NameRule where
  maxLength := 64
  pattern := "^[A-Za-z_][A-Za-z0-9_]*$"
  start c := Ascii.isLetter c || c = '_'
  part c := Ascii.isLetter c || Ascii.isDigit c || c = '_'

/-- Names of files hold letters, digits and three marks. -/
def fileNameRule : NameRule where
  maxLength := 128
  pattern := "^[A-Za-z0-9_.\\-]+$"
  start c := Ascii.isLetter c || Ascii.isDigit c || c = '_' || c = '.' || c = '-'
  part c := Ascii.isLetter c || Ascii.isDigit c || c = '_' || c = '.' || c = '-'

/-- Checks a name: its length first, then its characters. -/
def NameRule.check (rule : NameRule) : Value → Checked String
  | .str s =>
    match s.toList with
    | [] => .problem (.str s) (.tooShort 1)
    | first :: rest =>
      if rule.maxLength < (first :: rest).length then
        .problem (.str s) (.tooLong rule.maxLength)
      else if rule.start first && rest.all rule.part then .ok s
      else .problem (.str s) (.patternMismatch rule.pattern)
  | v => .problem v .notText

/-- A field that must be there. -/
def required {α : Type} (given : List (String × Value)) (key : String)
    (check : Value → Checked α) : Checked α :=
  Checked.under (.key key) (match given.lookup key with
    | some value => check value
    | none => .problem (.obj given) .missing)

/-- A field that has a default. -/
def defaulted {α : Type} (given : List (String × Value)) (key : String) (default : α)
    (check : Value → Checked α) : Checked α :=
  match given.lookup key with
  | some value => (check value).under (.key key)
  | none => .ok default

/-! ### Requests for a header -/

/-- A request for a header. The description is normalized. -/
structure HeaderRequest where
  hardware : Value
  structName : String

/-- The fields of a request for a header. -/
def HeaderRequest.ofFields (given : List (String × Value)) : Checked HeaderRequest :=
  (Checked.both (required given "hardware" normalizeHardware)
    (defaulted given "struct_name" Header.defaultName structNameRule.check)).map
      fun (hardware, structName) => { hardware, structName }

/-- Reads a request for a header. -/
def HeaderRequest.read : Value → Checked HeaderRequest
  | .obj given => HeaderRequest.ofFields given
  | v => .problem v (.notRecord "GenerateHardwareRequest")

/-! ### Requests for a file -/

/-- The name of the file if a request gives none. -/
def defaultFileName : String := "custom_hardware.h"

/-- A request for a header as a file. -/
structure FileRequest extends HeaderRequest where
  fileName : String

/-- Reads a request for a file. -/
def FileRequest.read : Value → Checked FileRequest
  | .obj given =>
    (Checked.both (HeaderRequest.ofFields given)
      (defaulted given "filename" defaultFileName fileNameRule.check)).map
        fun (header, fileName) => { header with fileName }
  | v => .problem v (.notRecord "GenerateHardwareFileRequest")

end ControlSurface.Schema
