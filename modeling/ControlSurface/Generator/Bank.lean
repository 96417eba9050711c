import ControlSurface.Generator.Field
import ControlSurface.Label
import ControlSurface.Numbering

/-!
# Banks

A bank is a fixed-size array of equal hardware objects, one for each entry of a list. It is
declared with the labels of its slots, brought up slot by slot, and most banks are serviced slot by
slot in every tick.
-/

namespace ControlSurface

/-- An array of hardware objects in the generated struct. -/
inductive Bank where
  | controls
  | encoders
  | gateInputs
  | leds
  | rgbLeds
  | switches
deriving DecidableEq, Repr

namespace Bank

/-- All banks. -/
def all : List Bank := [.controls, .encoders, .gateInputs, .leds, .rgbLeds, .switches]

theorem mem_all (b : Bank) : b ∈ all := by cases b <;> decide

instance (p : Bank → Prop) [DecidablePred p] : Decidable (∀ b, p b) :=
  decidable_of_iff (∀ b ∈ all, p b) ⟨fun h b => h b (mem_all b), fun h b _ => h b⟩

/-- The type of the objects in a bank. -/
def typeName : Bank → String
  | .controls => "AnalogControl"
  | .encoders => "Encoder"
  | .gateInputs => "GateIn"
  | .leds => "Led"
  | .rgbLeds => "RgbLed"
  | .switches => "Switch"

/-- The name of the array. -/
def arrayName : Bank → String
  | .controls => "controls"
  | .encoders => "encoders"
  | .gateInputs => "gate_inputs"
  | .leds => "leds"
  | .rgbLeds => "rgb_leds"
  | .switches => "switches"

/-- The method that services a slot in every tick. -/
def service? : Bank → Option String
  | .controls => some "Process"
  | .encoders => some "Debounce"
  | .gateInputs => none
  | .leds => some "Update"
  | .rgbLeds => some "Update"
  | .switches => some "Debounce"

/-- Names under which the first slot is reached without an index. -/
def shortcuts : Bank → List String
  | .encoders => [numbered "encoder" 0]
  | _ => []

/-- The struct members that a bank declares, labels left aside. -/
def members (b : Bank) : List String := b.arrayName :: b.shortcuts

/-! ### Declaration -/

/-- A reference that gives the first slot another name. -/
def shortcutLine (b : Bank) (name : String) : String :=
  s!"{b.typeName}& {name} = {b.arrayName}[0];"

/-- The lines that declare a bank and its references. -/
def declare (b : Bank) (entries : Value) : Except Fault (List String) := do
  let count ← entries.length
  let references ← Label.references b.typeName b.arrayName entries
  return [s!"// {b.arrayName} declaration", s!"{b.typeName} {b.arrayName}[{count}];"] ++
    b.shortcuts.map b.shortcutLine ++ references

/-! ### Bringing up -/

/-- The lines that bring up the analog controls: first the channels of the converter, which is then
initialized once for all of them, then the controls, then the converter starts. -/
def bringUpControls (entries : Value) : Except Fault (List String) := do
  let count ← entries.length
  let items ← entries.items
  let channels ← perEntry items fun entry i => do
    let pin ← pinText entry "pin"
    return [s!"cfg[{i}].InitSingle({pin});"]
  let controls ← perEntry items fun entry i => do
    let flip ← flagText entry "flip"
    let invert ← flagText entry "invert"
    return [s!"controls[{i}].Init(seed.adc.GetPtr({i}), seed.AudioCallbackRate(), " ++
      s!"{flip}, {invert});"]
  return s!"AdcChannelConfig cfg[{count}];" :: channels ++
    s!"seed.adc.Init(cfg, {count});" :: controls ++ ["seed.adc.Start();"]

/-- The line that brings up an encoder. -/
def bringUpEncoder (entry : Value) (i : Nat) : Except Fault (List String) := do
  let a ← pinText entry "pin_a"
  let b ← pinText entry "pin_b"
  let button ← pinText entry "pin_switch"
  return [s!"encoders[{i}].Init({a}, {b}, {button}, seed.AudioCallbackRate());"]

/-- The lines that bring up a gate input: one pin handle is bound anew for each of them. -/
def bringUpGateInput (entry : Value) (i : Nat) : Except Fault (List String) := do
  let pin ← pinText entry "pin"
  return [s!"gate_input_pin = {pin};", s!"gate_inputs[{i}].Init(&gate_input_pin);"]

/-- The line that brings up a single-colour light. -/
def bringUpLed (entry : Value) (i : Nat) : Except Fault (List String) := do
  let pin ← pinText entry "pin"
  let invert ← flagText entry "invert"
  return [s!"leds[{i}].Init({pin}, {invert});"]

/-- The line that brings up a light of three colours. -/
def bringUpRgbLed (entry : Value) (i : Nat) : Except Fault (List String) := do
  let red ← pinText entry "pin_r"
  let green ← pinText entry "pin_g"
  let blue ← pinText entry "pin_b"
  let invert ← flagText entry "invert"
  return [s!"rgb_leds[{i}].Init({red}, {green}, {blue}, {invert});"]

/-- The line that brings up a switch. Enumerators are written as the description has them. -/
def bringUpSwitch (entry : Value) (i : Nat) : Except Fault (List String) := do
  let pin ← pinText entry "pin"
  let type ← fieldText entry "type"
  let polarity ← fieldText entry "polarity"
  let pull ← fieldText entry "pull"
  return [s!"switches[{i}].Init({pin}, seed.AudioCallbackRate(), Switch::Type::{type}, " ++
    s!"Switch::Polarity::{polarity}, Switch::Pull::{pull});"]

/-- The lines that bring up a bank, without the comments around them. -/
def bringUpLines (b : Bank) (entries : Value) : Except Fault (List String) :=
  match b with
  | .controls => bringUpControls entries
  | .encoders => do perEntry (← entries.items) bringUpEncoder
  | .gateInputs => do
    return "dsy_gpio_pin gate_input_pin;" :: (← perEntry (← entries.items) bringUpGateInput)
  | .leds => do perEntry (← entries.items) bringUpLed
  | .rgbLeds => do perEntry (← entries.items) bringUpRgbLed
  | .switches => do perEntry (← entries.items) bringUpSwitch

/-- The block that brings up a bank. -/
def bringUp (b : Bank) (entries : Value) : Except Fault (List String) := do
  return bracketed b.arrayName (← b.bringUpLines entries)

/-! ### Servicing -/

/-- The line that services a slot. -/
def serviceLine (b : Bank) (method : String) (slot : Nat) : String :=
  s!"{b.arrayName}[{slot}].{method}();"

/-- The lines that service every slot of a bank. -/
def serviceAll (b : Bank) (method : String) (entries : Value) : Except Fault (List String) := do
  let count ← entries.length
  return s!"// process {b.arrayName}" :: (List.range count).map (b.serviceLine method)

end Bank

/-- The bank that holds the peripherals of a kind. -/
def Kind.bank? : Kind → Option Bank
  | .analogControl => some .controls
  | .encoder => some .encoders
  | .gateInput => some .gateInputs
  | .led => some .leds
  | .rgbLed => some .rgbLeds
  | .switch => some .switches
  | .cvOutput | .gateOutput | .midiHandler | .oledDisplay => none

end ControlSurface
