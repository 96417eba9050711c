import ControlSurface.Value

/-!
# Finite values

JSON has no words for infinite and undefined numbers, so that a value which holds one cannot be
written.
-/

namespace ControlSurface.Value

mutual

/-- Whether every number in a value is finite. Fields with a hidden name are left aside. -/
def isFinite (hidden : String → Bool) : Value → Bool
  | .float x => x.isFinite
  | .arr items => areFinite hidden items
  | .obj fields => fieldsAreFinite hidden fields
  | _ => true

/-- Whether all items of a list are finite. -/
def areFinite (hidden : String → Bool) : List Value → Bool
  | [] => true
  | v :: rest => v.isFinite hidden && areFinite hidden rest

/-- Whether all fields that are not hidden are finite. -/
def fieldsAreFinite (hidden : String → Bool) : List (String × Value) → Bool
  | [] => true
  | (k, v) :: rest => (hidden k || v.isFinite hidden) && fieldsAreFinite hidden rest

end

end ControlSurface.Value
