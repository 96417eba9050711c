import ControlSurface.Value.Access

/-!
# Fields in generated code

How the fields of an entry are written into code. Nothing is checked: a field is written as it
stands.
-/

namespace ControlSurface

/-- The text of a field, empty if it is missing or null. -/
def fieldText (entry : Value) (key : String) : Except Fault String := do
  let value ← entry.get key
  return if value.isNull then "" else value.text

/-- A field as a truth value. -/
def flagText (entry : Value) (key : String) : Except Fault String := do
  return if (← entry.get key).truthy then "true" else "false"

/-- The pin that a field gives. -/
def pinText (entry : Value) (key : String) : Except Fault String := do
  let pin ← fieldText entry key
  return s!"seed.GetPin({pin})"

/-- The lines of a block that brings up an array, between a comment before and one after. -/
def bracketed (arrayName : String) (body : List String) : List String :=
  s!"// BEGIN - {arrayName} initialization" :: body ++ [s!"// END - {arrayName} initialization"]

/-- Lines for the entries of a list, each made from an entry and its index. -/
def perEntry (entries : List Value) (lines : Value → Nat → Except Fault (List String)) :
    Except Fault (List String) := do
  return (← entries.zipIdx.mapM fun (entry, index) => lines entry index).flatten

end ControlSurface
