import ControlSurface.Schema.Record
import ControlSurface.Schema.Scalar

/-!
# The schema of hardware descriptions

A description lists entries under the keys of the peripherals; an entry has simple fields, labels
and, if it is a display, the settings of its transport.
-/

namespace ControlSurface.Schema

/-! ### Settings of a transport -/

/-- The settings of the four-wire serial transport. -/
def spiSettings : Record Scalar where
  title := "SpiTransportConfig"
  fields := [.plain "pin_dc" .pin, .plain "pin_reset" .pin]

/-- The settings of the two-wire bus. -/
def i2cSettings : Record Scalar where
  title := "I2cTransportConfig"
  fields := [.plain "address" .pin, .plain "peripheral" .text, .plain "speed" .text,
    .plain "pin_sda" .pin, .plain "pin_scl" .pin]

/-! ### Entries -/

/-- The type of a field of an entry. -/
inductive EntryType where
  | scalar (type : Scalar)
  | labels
  | settings (record : Record Scalar)

/-- What is accepted for a field of an entry. -/
def EntryType.check : EntryType → Value → Checked Value
  | .scalar type => type.check
  | .labels => checkList Scalar.checkText
  | .settings record => record.normalize Scalar.check

/-- A field that holds a pin. -/
def pinField (name : String) : Field EntryType := .plain name (.scalar .pin)

/-- A field that holds a flag. -/
def flagField (name : String) : Field EntryType := .plain name (.scalar .flag)

/-- A field that holds a text. -/
def textField (name : String) : Field EntryType := .plain name (.scalar .text)

/-- The record of an entry: every entry may have labels, which come first. -/
def entry (title : String) (fields : List (Field EntryType)) : Record EntryType where
  title
  fields := .plain "labels" .labels :: fields

/-- The entry of a display. -/
def display : Record EntryType :=
  entry "OledDisplay" [textField "driver", textField "transport", textField "dimensions",
    { name := "spi_config", alias? := some "4_wire_spi_config", type := .settings spiSettings },
    .plain "i2c_config" (.settings i2cSettings)]

/-- The entry of a switch. -/
def switch : Record EntryType :=
  entry "Switch" [pinField "pin", textField "type", textField "polarity", textField "pull"]

/-- The fields of whatever is read through the converter. -/
def analogFields : List (Field EntryType) := [pinField "pin", flagField "flip", flagField "invert"]

/-! ### Descriptions -/

/-- The lists of a description, each with the record of its entries. -/
def hardware : Record (Record EntryType) where
  title := "HardwareDescription"
  fields := [
    .plain "analog_controls" (entry "AnalogControl" analogFields),
    .plain "cv_inputs" (entry "CvInput" analogFields),
    .plain "cv_outputs" (entry "CvOutput" [pinField "pin"]),
    .plain "encoders"
      (entry "Encoder" [pinField "pin_a", pinField "pin_b", pinField "pin_switch"]),
    .plain "gate_inputs" (entry "GateInput" [pinField "pin"]),
    .plain "gate_outputs" (entry "GateOutput" [pinField "pin"]),
    .plain "leds" (entry "Led" [pinField "pin", flagField "invert"]),
    .plain "midi_handlers" (entry "MidiHandler" []),
    .plain "oled_displays" display,
    .plain "rgb_leds"
      (entry "RgbLed" [pinField "pin_r", pinField "pin_g", pinField "pin_b", flagField "invert"]),
    .plain "switches" switch]

/-- What is accepted for a list of entries. -/
def checkEntries (record : Record EntryType) : Value → Checked Value :=
  checkList (record.normalize EntryType.check)

/-- Checks a description and normalizes it. -/
def normalizeHardware : Value → Checked Value := hardware.normalize checkEntries

end ControlSurface.Schema
