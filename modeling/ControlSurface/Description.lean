import ControlSurface.Generator

/-!
# Descriptions

A description is an object that lists the entries of each peripheral under the keys of its kind.
Here its entries are collected by kind and turned into the fragments of a phase, in the order in
which the struct holds the kinds.
-/

namespace ControlSurface.Description

/-- The entries listed under a key. -/
def entriesUnder (description : Value) (key : String) : Except Fault (List Value) := do
  (← description.get key).itemsOrNone

/-- The entries of a kind, in the order of their indices. CV outputs beyond the channels of the
board are dropped. -/
def entriesOf (description : Value) (k : Kind) : Except Fault (List Value) := do
  let listed ← k.keys.mapM (entriesUnder description)
  return if k = .cvOutput then listed.flatten.take dacChannels else listed.flatten

/-- The entries of a kind that may be any value. -/
def collect (description kind : Value) : Except Fault (List Value) := do
  entriesOf description (← Kind.ofValue kind)

/-- The number of entries under each key that lists peripherals. -/
def counts (description : Value) : Except Fault (List (String × Nat)) :=
  entryKeys.mapM fun key => do
    return (key, ← ((← description.get key).orElse (.arr [])).length)

/-! ### Fragments of a phase -/

/-- Whether a choice of kinds selects one: null selects all of them, any other value those it
holds. -/
def selects (choice : Value) (k : Kind) : Except Fault Bool :=
  match choice with
  | .null => .ok true
  | _ => choice.holds k.name

/-- The lines of a kind for a phase, none if the kind is not selected. The phase may be a failure to
name one, which comes to light after the entries have been collected. -/
def selectedLines (description : Value) (phase : Except Fault Phase)
    (selected : Kind → Except Fault Bool) (k : Kind) : Except Fault (List String) := do
  if ← selected k then
    let entries ← entriesOf description k
    k.fragmentLines (← phase) (.arr entries)
  else return []

/-- The lines of the fragments of the selected kinds for a phase. Kinds without lines have none. -/
def fragmentLines (description : Value) (phase : Except Fault Phase)
    (selected : Kind → Except Fault Bool) : Except Fault (List (List String)) := do
  let lines ← Kind.all.mapM (selectedLines description phase selected)
  return lines.filter fun l => !l.isEmpty

/-- The fragments of the selected kinds for a phase. -/
def fragments (description : Value) (phase : Except Fault Phase)
    (selected : Kind → Except Fault Bool) : Except Fault (List String) := do
  return (← fragmentLines description phase selected).map fragmentText

/-- The fragments of a phase, when the phase and the choice of kinds may be any value. -/
def phaseFragments (description phase choice : Value) : Except Fault (List String) :=
  fragments description (Phase.ofValue phase) (selects choice)

end ControlSurface.Description
