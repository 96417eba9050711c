import ControlSurface.Value.Access

/-!
# Labels

An entry may carry labels: further names for its slot in an array. Each of them is declared as a
reference to that slot.
-/

namespace ControlSurface.Label

/-- The labels of an entry. -/
def ofEntry (entry : Value) : Except Fault (List Value) := do
  (← entry.get "labels").itemsOrNone

/-- Every label with the slot that it is bound to, in the order of the entries and of their
labels. -/
def bindings (entries : Value) : Except Fault (List (Value × Nat)) := do
  let bound ← (← entries.items).zipIdx.mapM fun (entry, slot) => do
    return (← ofEntry entry).map fun label => (label, slot)
  return bound.flatten

/-- A reference that gives a slot of an array another name. -/
def reference (typeName arrayName : String) (binding : Value × Nat) : String :=
  s!"{typeName}& {binding.1.text} = {arrayName}[{binding.2}];"

/-- The references of all labels. A label that is used twice is declared twice. -/
def references (typeName arrayName : String) (entries : Value) : Except Fault (List String) := do
  return (← bindings entries).map (reference typeName arrayName)

end ControlSurface.Label
