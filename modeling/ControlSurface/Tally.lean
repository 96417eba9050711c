import ControlSurface.Value.Access

/-!
# Tallies

How often each label is bound. Equal labels are counted together, whatever their shapes: the number
one, the same number as a double and true are one label. Counts are numbers as a rule, but a
description may hand in ready-made counts, which can be any value.
-/

namespace ControlSurface

namespace Value

/-! ### Sums -/

/-- The integer that a truth value or an integer stands for. -/
def toInt? : Value → Option Int
  | .bool b => some (if b then 1 else 0)
  | .int n => some n
  | _ => none

/-- An integer as a double, if it is in range. -/
def doubleOfInt (n : Int) : Except Fault Binary64 :=
  match Binary64.ofInt n with
  | .infinite _ => .error .integerTooLarge
  | x => .ok x

/-- A number as a double. -/
def toDouble? : Value → Option (Except Fault Binary64)
  | .float x => some (.ok x)
  | v => v.toInt?.map doubleOfInt

/-- The sum of two values: numbers are added, texts and lists joined. -/
def plus (a b : Value) : Except Fault Value :=
  match a, b with
  | .str s, .str t => .ok (.str (s ++ t))
  | .arr xs, .arr ys => .ok (.arr (xs ++ ys))
  | .str _, _ | .arr _, _ => .error (.notJoinable a.shape b.shape)
  | _, _ =>
    match a.toInt?, b.toInt? with
    | some m, some n => .ok (.int (m + n))
    | _, _ =>
      match a.toDouble?, b.toDouble? with
      | some x, some y => do return .float ((← x).add (← y))
      | _, _ => .error (.notAddable a.shape b.shape)

/-- Whether a value is a number greater than one. -/
def exceedsOne : Value → Except Fault Bool
  | .bool _ => .ok false
  | .int n => .ok (1 < n)
  | .float .nan => .ok false
  | .float (.infinite negative) => .ok !negative
  | .float x => .ok (match x.toRat? with
    | some value => 1 < value
    | none => false)
  | v => .error (.notComparable v.shape .int)

/-- A count as text. Integers that have grown beyond the most digits there may be have none. -/
def countText : Value → Except Fault String
  | .int n =>
    let shown := toString n
    if 4300 < (toString n.natAbs).length then .error .integerTooLong else .ok shown
  | v => .ok v.text

end Value

/-! ### Labels -/

/-- What a label is counted under. All labels that are not a number are counted as one. -/
inductive LabelKey where
  | null
  | undefined
  | infinite (negative : Bool)
  | number (value : Rat)
  | text (s : String)
deriving DecidableEq

/-- The key of a label. Lists and objects cannot be labels. -/
def LabelKey.of : Value → Except Fault LabelKey
  | .null => .ok .null
  | .bool b => .ok (.number (if b then 1 else 0))
  | .int n => .ok (.number n)
  | .float (.infinite negative) => .ok (.infinite negative)
  | .float x => .ok (match x.toRat? with
    | some value => .number value
    | none => .undefined)
  | .str s => .ok (.text s)
  | v => .error (.unhashable v.shape)

/-- A label, shown as it was first met, and its count. -/
structure Tallied where
  key : LabelKey
  label : Value
  count : Value

/-- The labels counted so far, in the order in which they were first met. -/
abbrev Tally := List Tallied

namespace Tally

/-- Changes the count of a label: `update` makes the new count from the one there is, if any. -/
def change (key : LabelKey) (label : Value) (update : Option Value → Except Fault Value) :
    Tally → Except Fault Tally
  | [] => do return [⟨key, label, ← update none⟩]
  | entry :: rest => do
    if entry.key = key then return { entry with count := ← update (some entry.count) } :: rest
    else return entry :: (← change key label update rest)

/-- Counts a label once more. -/
def count (tally : Tally) (label : Value) : Except Fault Tally := do
  tally.change (← LabelKey.of label) label fun
    | none => .ok (.int 1)
    | some n => n.plus (.int 1)

/-- Takes over ready-made counts. They are added to the counts there are, unless there are none at
all: then they are taken as they stand. -/
def takeCounts (tally : Tally) (counts : List (String × Value)) : Except Fault Tally :=
  if tally.isEmpty then .ok (counts.map fun (label, n) => ⟨.text label, .str label, n⟩)
  else counts.foldlM (fun t (label, n) =>
    t.change (.text label) (.str label) fun before => n.plus (before.getD (.int 0))) tally

/-- Counts what an entry gives as its labels: an object holds ready-made counts. -/
def countLabels (tally : Tally) (labels : Value) : Except Fault Tally := do
  match labels.orElse (.arr []) with
  | .obj counts => tally.takeCounts counts
  | other => (← other.items).foldlM count tally

end Tally

end ControlSurface
