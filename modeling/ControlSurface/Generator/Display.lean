import ControlSurface.Generator.Field
import ControlSurface.Numbering

/-!
# Displays

Displays are single members, not slots of an array, since each has a driver type of its own. They
are reached over one of two transports, which are told apart by their exact names.
-/

namespace ControlSurface.Display

/-! ### Drivers -/

/-- The driver type of a display: its driver family, transport and dimensions one after the other,
those that are missing left out. -/
def driver (display : Value) : Except Fault String := do
  let parts ← ["driver", "transport", "dimensions"].mapM display.get
  return String.join ((parts.filter fun part => !part.isNull).map Value.text) ++ "Driver"

/-- The driver types of displays, in their order. -/
def drivers (displays : Value) : Except Fault (List String) := do
  (← displays.items).mapM driver

/-- The driver family that has a header of its own. -/
def familyWithHeader : String := "SSD130x"

/-- The line that brings in that header. -/
def familyHeader : String := "#include \"dev/oled_ssd130x.h\""

/-- Whether a display has a driver of that family. -/
def needsHeader (display : Value) : Except Fault Bool := do
  match ← display.get "driver" with
  | .str s => return s = familyWithHeader
  | _ => return false

/-- Whether one of the displays needs the header. Displays after the first one are not looked at. -/
def anyNeedsHeader : List Value → Except Fault Bool
  | [] => return false
  | display :: rest => do if ← needsHeader display then return true else anyNeedsHeader rest

/-- The header that the displays need. -/
def inclusions (displays : Value) : Except Fault (List String) := do
  return if ← anyNeedsHeader (← displays.items) then [familyHeader] else []

/-! ### Declaration -/

/-- The names of the displays. -/
def names (displays : Value) : Except Fault (List String) := do
  return (List.range (← displays.length)).map (numbered "display")

/-- The line that declares a display with its driver. -/
def declarationLine (driver name : String) : String := s!"OledDisplay<{driver}> {name};"

/-- The lines that declare the displays. -/
def declare (displays : Value) : Except Fault (List String) := do
  let names ← names displays
  let drivers ← drivers displays
  return "// oled_displays declaration" :: drivers.zipWith declarationLine names

/-! ### Bringing up -/

/-- The settings of a transport, none if they do not count as present. -/
def settingsOf (display : Value) (key : String) : Except Fault Value := do
  return (← display.get key).orElse (.obj [])

/-- The lines that set up the four-wire serial transport. -/
def spiLines (target : String) (settings : Value) : Except Fault (List String) := do
  let dc ← pinText settings "pin_dc"
  let reset ← pinText settings "pin_reset"
  return [s!"{target}.pin_config.dc = {dc};", s!"{target}.pin_config.reset = {reset};"]

/-- The lines that set up the two-wire bus. -/
def i2cLines (target : String) (settings : Value) : Except Fault (List String) := do
  let address ← fieldText settings "address"
  let peripheral ← fieldText settings "peripheral"
  let speed ← fieldText settings "speed"
  let sda ← pinText settings "pin_sda"
  let scl ← pinText settings "pin_scl"
  return [
    s!"{target}.i2c_address = {address};",
    s!"{target}.i2c_config.periph = I2CHandle::Config::Peripheral::{peripheral};",
    s!"{target}.i2c_config.speed = I2CHandle::Config::Speed::{speed};",
    s!"{target}.i2c_config.pin_config.sda = {sda};",
    s!"{target}.i2c_config.pin_config.scl = {scl};"]

/-- The lines that set up the transport of a display; a transport of another name has none. -/
def transportLines (config : String) (display : Value) : Except Fault (List String) := do
  let target := s!"{config}.driver_config.transport_config"
  match ← display.get "transport" with
  | .str "4WireSpi" => spiLines target (← settingsOf display "4_wire_spi_config")
  | .str "I2c" => i2cLines target (← settingsOf display "i2c_config")
  | _ => return []

/-- The lines that bring up a display with its driver. -/
def bringUpLines (display : Value) (driver : String) (index : Nat) :
    Except Fault (List String) := do
  let config := s!"display_config{index}"
  let transport ← transportLines config display
  let name := numbered "display" index
  return s!"// Display {index}" :: s!"OledDisplay<{driver}>::Config {config};" :: transport ++
    [s!"{name}.Init({config});"]

/-- The block that brings up the displays. -/
def bringUp (displays : Value) : Except Fault (List String) := do
  let _ ← displays.length
  let drivers ← drivers displays
  let lines ← ((← displays.items).zip drivers).zipIdx.mapM fun ((display, driver), index) =>
    bringUpLines display driver index
  return bracketed "oled_displays" lines.flatten

end ControlSurface.Display
