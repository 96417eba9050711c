import ControlSurface.Fault
import ControlSurface.Json.Reader
import ControlSurface.Text.Blank

/-!
# Reading a description

A description comes as JSON text that must hold an object.
-/

namespace ControlSurface.Description

/-- Why a text is no description. -/
inductive ReadError where
  | empty
  | notJson (cause : Json.Error)
  | notObject (shape : Shape)
deriving DecidableEq, Repr

/-- The wording of an error. What the JSON reader has no room for is reported in its words alone. -/
def ReadError.message : ReadError → String
  | .empty => "Empty hardware description"
  | .notJson (.integerTooLong digits) => Json.tooLongMessage digits
  | .notJson (.tooNested container) => Json.tooNestedMessage container
  | .notJson cause => s!"Hardware description is not valid JSON: {cause.message}"
  | .notObject shape => s!"Hardware description must be a JSON object, got {shape.name}"

/-- Reads a description. A text of nothing but white space is empty. -/
def read (text : String) : Except ReadError Value :=
  if Text.isBlankText text then .error .empty
  else match Json.read text with
    | .error cause => .error (.notJson cause)
    | .ok (.obj fields) => .ok (.obj fields)
    | .ok other => .error (.notObject other.shape)

/-- Reads a description from what should be its text. A value that does not count as present is as
good as an empty text; any other value cannot be read at all. -/
def readValue (text : Value) : Except (ReadError ⊕ Fault) Value :=
  match text with
  | .str s => (read s).mapError .inl
  | other => if other.truthy then .error (.inr (.noTrimming other.shape)) else .error (.inl .empty)

end ControlSurface.Description
