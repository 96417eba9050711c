import ControlSurface.Kind
import ControlSurface.Phase
import ControlSurface.Value.Text

/-!
# Faults

What can go wrong when code is generated from a description that nobody has checked: a value is
asked for something that its shape does not offer, or a name is not known.
-/

namespace ControlSurface

/-- The cause of a failure. -/
inductive Fault where
  | noFields (shape : Shape)
  | noTrimming (shape : Shape)
  | notIterable (shape : Shape)
  | noLength (shape : Shape)
  | noMembership (shape : Shape)
  | unhashable (shape : Shape)
  | notAddable (left right : Shape)
  | notJoinable (left right : Shape)
  | notComparable (left right : Shape)
  | integerTooLarge
  | integerTooLong
  | unknownKind (shown : String)
  | unknownPhase (shown : String)
  | invalidPhase (literal : String)
deriving DecidableEq, Repr

/-- The literal of a list of names. -/
def nameList (names : List String) : String := Value.literal (.arr (names.map .str))

/-- The wording of a failure. -/
def Fault.message : Fault → String
  | .noFields t => s!"'{t.name}' object has no attribute 'get'"
  | .noTrimming t => s!"'{t.name}' object has no attribute 'strip'"
  | .notIterable t => s!"'{t.name}' object is not iterable"
  | .noLength t => s!"object of type '{t.name}' has no len()"
  | .noMembership t => s!"argument of type '{t.name}' is not iterable"
  | .unhashable t => s!"unhashable type: '{t.name}'"
  | .notAddable l r => s!"unsupported operand type(s) for +: '{l.name}' and '{r.name}'"
  | .notJoinable l r => s!"can only concatenate {l.name} (not \"{r.name}\") to {l.name}"
  | .notComparable l r => s!"'>' not supported between instances of '{l.name}' and '{r.name}'"
  | .integerTooLarge => "int too large to convert to float"
  | .integerTooLong =>
    "Exceeds the limit (4300 digits) for integer string conversion; " ++
      "use sys.set_int_max_str_digits() to increase the limit"
  | .unknownKind shown =>
    s!"Unknown peripheral kind '{shown}'. Available: " ++ nameList (Kind.all.map Kind.name)
  | .unknownPhase shown =>
    s!"Unknown phase '{shown}'. Available: " ++ nameList (Phase.all.map Phase.name)
  | .invalidPhase literal => s!"{literal} is not a valid Phase"

end ControlSurface
