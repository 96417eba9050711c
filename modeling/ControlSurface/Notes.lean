import ControlSurface.Header
import ControlSurface.Tally

/-!
# Notes

Observations about a description that do not keep its header from being generated: CV outputs that
are dropped, labels that are bound more than once, labels that are named like a member of the
struct.
-/

namespace ControlSurface.Notes

/-- The note about CV outputs for which the board has no channel. -/
def cvOutputNotes (listed : Nat) : List String :=
  if dacChannels < listed then
    [s!"{listed} cv_outputs listed but only {dacChannels} DAC channels are available; " ++
      s!"the extra {listed - dacChannels} are ignored."]
  else []

/-- The note about a label that is named like a member. -/
def reuseNote (label : String) : String :=
  s!"Label '{label}' reuses the name of a generated member (duplicate struct members)."

/-- The note about a label that is bound more than once. -/
def duplicateNote (label count : String) : String :=
  s!"Label '{label}' is bound {count} times (duplicate struct members)."

/-- Whether a label is one of some names. -/
def isNamed (names : List String) : Value → Bool
  | .str s => names.contains s
  | _ => false

/-- The notes about a label. -/
def labelNotes (members : List String) (entry : Tallied) : Except Fault (List String) := do
  let label := entry.label.text
  let reuse := if isNamed members entry.label then [reuseNote label] else []
  let duplicate ←
    if ← entry.count.exceedsOne then do
      pure [duplicateNote label (← entry.count.countText)]
    else pure []
  return reuse ++ duplicate

/-- The labels of all entries that may bind any, counted. -/
def tally (description : Value) : Except Fault Tally :=
  labelKeys.foldlM (fun t key => do
    (← Description.entriesUnder description key).foldlM
      (fun t entry => do t.countLabels (← entry.get "labels")) t) []

/-- The notes about a description. -/
def ofDescription (description : Value) : Except Fault (List String) := do
  let listed ← ((← description.get "cv_outputs").orElse (.arr [])).length
  let members ← Header.members description
  let notes ← (← tally description).mapM (labelNotes members)
  return cvOutputNotes listed ++ notes.flatten

end ControlSurface.Notes
