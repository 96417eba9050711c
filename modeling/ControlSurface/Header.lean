import ControlSurface.Description
import ControlSurface.Text.Lines

/-!
# The generated header

The fragments of all phases are put into one header: inclusions, a struct with every declaration, a
routine that brings everything up, and the routines that are called in every tick.
-/

namespace ControlSurface.Header

/-- The name of the struct if a request gives none. -/
def defaultName : String := "Daisy"

/-- The indent of struct members. -/
def indent : String := "    "

/-- The indent of statements. -/
def deepIndent : String := "        "

/-- The member that holds the board. -/
def board : String := "seed"

/-- The routine that brings everything up. -/
def bringUpRoutine : String := "Init"

/-- A routine that is called in every tick, and the kinds that it services. -/
structure Duty where
  routine : String
  kinds : List Kind
deriving DecidableEq, Repr

/-- The routines that process the controls. -/
def controlDuties : List Duty :=
  [⟨"ProcessAnalogControls", [.analogControl]⟩, ⟨"ProcessDigitalControls", [.encoder, .switch]⟩]

/-- The routine that runs all of them. -/
def allControlsRoutine : String := "ProcessAllControls"

/-- The routine that refreshes the lights, apart from the processing of controls. -/
def lightDuty : Duty := ⟨"UpdateLeds", [.led, .rgbLed]⟩

/-! ### Members -/

/-- Every struct member that the header of a description declares, labels left aside. -/
def members (description : Value) : Except Fault (List String) := do
  let description := description.orElse (.obj [])
  let members ← Kind.all.mapM fun k => do
    k.members (.arr (← Description.entriesOf description k))
  return board :: members.flatten ++ bringUpRoutine :: controlDuties.map Duty.routine ++
    [allControlsRoutine, lightDuty.routine]

/-! ### Assembly -/

/-- The lines of a fragment behind an indent. -/
def indentedLines (indent fragment : String) : List String :=
  Text.splitLines (Text.indentLines indent fragment)

/-- Fragments behind an indent, with an empty line between one and the next. -/
def region (fragments : List String) (indent : String) : List String :=
  [""].intercalate (fragments.map (indentedLines indent))

/-- A routine of the struct and the empty line after it. -/
def routine (signature : String) (body : List String) : List String :=
  [indent ++ signature, indent ++ "\x7b"] ++ body ++ [indent ++ "\x7d", ""]

/-- The fragments of all kinds for a phase. -/
def phaseFragments (description : Value) (phase : Phase) : Except Fault (List String) :=
  Description.fragments description (.ok phase) fun _ => .ok true

/-- The fragments of the kinds that a routine services. -/
def dutyFragments (description : Value) (duty : Duty) : Except Fault (List String) :=
  Description.fragments description (.ok .processing) fun k => .ok (duty.kinds.contains k)

/-- The lines of a routine that is called in every tick. -/
def dutyLines (description : Value) (duty : Duty) : Except Fault (List String) := do
  let fragments ← dutyFragments description duty
  return routine s!"void {duty.routine}()" (region fragments deepIndent)

/-- The lines before the declarations. -/
def opening (inclusions : List String) : List String :=
  ["// File was generated, do not edit!", "#pragma once", "", "#include \"daisy_seed.h\""] ++
    inclusions ++
    ["", "using namespace daisy;", "", "typedef struct \x7b",
      indent ++ s!"DaisySeed {board};", ""]

/-- The lines of the declarations. -/
def declarationLines (declarations : List String) : List String :=
  if declarations.isEmpty then [] else region declarations indent ++ [""]

/-- The statements of the routine that brings everything up. -/
def bringUpBody (initializations : List String) : List String :=
  [deepIndent ++ s!"{board}.Configure();", deepIndent ++ s!"{board}.Init(boost);"] ++
    if initializations.isEmpty then [] else "" :: region initializations deepIndent

/-- The lines of the routine that runs all routines for the controls. -/
def allControlsLines : List String :=
  routine s!"inline void {allControlsRoutine}()"
    (controlDuties.map fun duty => deepIndent ++ s!"{duty.routine}();")

/-- The lines of the header. A line is empty where the text of the header ends in a line feed. -/
def lines (description : Value) (structName : String) : Except Fault (List String) := do
  let description := description.orElse (.obj [])
  let inclusions ← phaseFragments description .inclusion
  let declarations ← phaseFragments description .declaration
  let initializations ← phaseFragments description .initialization
  let controls ← controlDuties.mapM (dutyLines description)
  let lights ← dutyLines description lightDuty
  return opening inclusions ++ declarationLines declarations ++
    routine s!"void {bringUpRoutine}(bool boost)" (bringUpBody initializations) ++
    controls.flatten ++ allControlsLines ++ lights ++ ["\x7d " ++ structName ++ ";", ""]

/-- The text of the header. -/
def source (description : Value) (structName : String) : Except Fault String := do
  return "\n".intercalate (← lines description structName)

end ControlSurface.Header
