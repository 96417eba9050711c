import ControlSurface.Value.Text

/-!
# Numbered names

Members of one kind that are not slots of an array are told apart by a number behind their name.
-/

namespace ControlSurface

/-- The name of the member with an index: the first one keeps the bare name. -/
def numbered (base : String) (index : Nat) : String :=
  if index = 0 then base else base ++ toString index

@[simp] theorem numbered_zero (base : String) : numbered base 0 = base := rfl

/-- The name of the member whose base and index are any values. Every zero is the first index, and
then the base is the name, whatever it is. -/
def Value.numbered (base index : Value) : Value :=
  if index.isZero then base else .str (base.text ++ index.text)

end ControlSurface
