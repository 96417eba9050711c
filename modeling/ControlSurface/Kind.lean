/-!
# Kinds of peripherals

What a control surface can be fitted with, and under which keys a description lists it.
-/

namespace ControlSurface

/-- A kind of peripheral. -/
inductive Kind where
  | analogControl
  | cvOutput
  | encoder
  | gateInput
  | gateOutput
  | led
  | midiHandler
  | oledDisplay
  | rgbLed
  | switch
deriving DecidableEq, Repr

namespace Kind

/-- The kinds in the order in which the generated struct holds them. -/
def all : List Kind :=
  [.analogControl, .cvOutput, .encoder, .gateInput, .gateOutput, .led, .midiHandler, .oledDisplay,
    .rgbLed, .switch]

/-- How a kind is called. -/
def name : Kind → String
  | .analogControl => "analog_control"
  | .cvOutput => "cv_output"
  | .encoder => "encoder"
  | .gateInput => "gate_input"
  | .gateOutput => "gate_output"
  | .led => "led"
  | .midiHandler => "midi_handler"
  | .oledDisplay => "oled_display"
  | .rgbLed => "rgb_led"
  | .switch => "switch"

/-- One line about a kind. -/
def summary : Kind → String
  | .analogControl => "Potentiometers and CV inputs read through the ADC (AnalogControl)"
  | .cvOutput => "CV outputs driven by the two-channel DAC"
  | .encoder => "Rotary encoders with push switch (Encoder)"
  | .gateInput => "Gate/trigger inputs (GateIn)"
  | .gateOutput => "Gate outputs (reserved, generates no code)"
  | .led => "Single-colour LEDs (Led)"
  | .midiHandler => "MIDI handlers (reserved, generates no code)"
  | .oledDisplay => "OLED displays over 4-wire SPI or I2C (OledDisplay)"
  | .rgbLed => "RGB LEDs (RgbLed)"
  | .switch => "Momentary and toggle switches (Switch)"

/-- The keys that list the entries of a kind; their lists are joined in this order. -/
def keys : Kind → List String
  | .analogControl => ["analog_controls", "cv_inputs"]
  | .cvOutput => ["cv_outputs"]
  | .encoder => ["encoders"]
  | .gateInput => ["gate_inputs"]
  | .gateOutput => ["gate_outputs"]
  | .led => ["leds"]
  | .midiHandler => ["midi_handlers"]
  | .oledDisplay => ["oled_displays"]
  | .rgbLed => ["rgb_leds"]
  | .switch => ["switches"]

/-- The kind of a name. -/
def ofName? (s : String) : Option Kind := all.find? fun k => k.name = s

theorem ofName?_name (k : Kind) : ofName? k.name = some k := by cases k <;> rfl

theorem mem_all (k : Kind) : k ∈ all := by cases k <;> decide

instance (p : Kind → Prop) [DecidablePred p] : Decidable (∀ k, p k) :=
  decidable_of_iff (∀ k ∈ all, p k) ⟨fun h k => h k (mem_all k), fun h k _ => h k⟩

end Kind

/-- Every key of a description that lists peripherals. -/
def entryKeys : List String := Kind.all.flatMap Kind.keys

/-- The keys whose entries may bind labels to struct members. -/
def labelKeys : List String :=
  ["analog_controls", "cv_inputs", "encoders", "gate_inputs", "leds", "rgb_leds", "switches"]

/-- The number of DAC channels of the board, and so of the CV outputs that it can drive. -/
def dacChannels : Nat := 2

end ControlSurface
