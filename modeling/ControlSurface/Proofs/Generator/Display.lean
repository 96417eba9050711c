import ControlSurface.Generator
import ControlSurface.Proofs.Generator.Leads

/-!
# Lines of displays

The displays of a normalized description can be brought in, declared and brought up, and the lines
for that open with a few fixed words.
-/

namespace ControlSurface

open Schema Text

namespace Display

/-- How the lines of displays open. -/
def leads : Phase → List String
  | .inclusion => ["#include "]
  | .declaration => ["// ", "OledDisplay<"]
  | .initialization => ["// ", "OledDisplay<", "display"]
  | .processing => []

/-- Whether a value is an entry of a display, all of it on one line. -/
structure IsEntry (e : Value) : Prop where
  fits : display.Fits EntryType.Fits e
  oneLine : e.IsOneLine

variable {e : Value} {entries : List Value}

/-! ### Drivers -/

/-- The driver type of an entry. -/
def driverOf (e : Value) : String :=
  String.join (["driver", "transport", "dimensions"].map (fieldOf e)) ++ "Driver"

/-- Parts that are missing leave no trace in the fields that are joined. -/
lemma join_filter_isNull (fields : List (String × Value)) (keys : List String) :
    String.join (((keys.map fun key => (fields.lookup key).getD .null).filter
      fun part => !part.isNull).map Value.text) =
      String.join (keys.map (fieldOf (.obj fields))) := by
  induction keys with
  | nil => rfl
  | cons key keys ih =>
    rw [List.map_cons, List.map_cons, List.filter_cons, String.join_cons, ← ih, fieldOf]
    cases hnull : ((fields.lookup key).getD .null).isNull with
    | true => simp
    | false => simp [String.join_cons]

lemma driver_eq (h : e.IsObject) : driver e = .ok (driverOf e) := by
  obtain ⟨fields, rfl⟩ := h
  have hparts : ["driver", "transport", "dimensions"].mapM (Value.get (.obj fields)) =
      .ok (["driver", "transport", "dimensions"].map fun key =>
        (fields.lookup key).getD .null) :=
    mapM_eq_ok fun key _ => Value.get_obj fields key
  rw [driver, hparts, driverOf, ← join_filter_isNull]
  rfl

lemma oneLine_join {parts : List String} (h : ∀ part ∈ parts, OneLine part) :
    OneLine (String.join parts) := by
  induction parts with
  | nil => decide
  | cons part parts ih =>
    obtain ⟨hpart, hparts⟩ := List.forall_mem_cons.1 h
    rw [String.join_cons]
    exact hpart.append (ih hparts)

/-- The fields that make up a driver type. -/
def driverKeys : List String := ["driver", "transport", "dimensions"]

lemma oneLine_driverOf (h : ∀ key ∈ driverKeys, OneLine (fieldOf e key)) :
    OneLine (driverOf e) :=
  (oneLine_join (List.forall_mem_map.2 h)).append (by decide)

lemma IsEntry.oneLine_fieldOf_driver (h : IsEntry e) :
    ∀ key ∈ driverKeys, OneLine (fieldOf e key) := by
  have hscalar : ∀ key ∈ driverKeys, textField key ∈ display.fields := by
    simp [driverKeys, display, entry]
  intro key hkey
  exact oneLine_fieldOf h.fits h.oneLine (hscalar key hkey) (t := .text) fun w hw => hw

lemma drivers_eq (h : ∀ e ∈ entries, e.IsObject) :
    drivers (.arr entries) = .ok (entries.map driverOf) := by
  rw [drivers, Value.items_arr]
  exact mapM_eq_ok fun e he => driver_eq (h e he)

/-! ### Inclusions -/

lemma needsHeader_eq (h : e.IsObject) : ∃ needs, needsHeader e = .ok needs := by
  obtain ⟨fields, rfl⟩ := h
  rw [needsHeader, Value.get_obj]
  dsimp only [bind, Except.bind]
  split
  · exact ⟨_, rfl⟩
  · exact ⟨_, rfl⟩

lemma anyNeedsHeader_eq (h : ∀ e ∈ entries, e.IsObject) :
    ∃ needs, anyNeedsHeader entries = .ok needs := by
  induction entries with
  | nil => exact ⟨false, rfl⟩
  | cons e entries ih =>
    obtain ⟨he, hentries⟩ := List.forall_mem_cons.1 h
    obtain ⟨needs, hneeds⟩ := needsHeader_eq he
    rw [anyNeedsHeader, hneeds]
    cases needs with
    | true => exact ⟨true, rfl⟩
    | false => exact ih hentries

/-- Displays need one header at most. -/
theorem inclusions_eq (h : ∀ e ∈ entries, e.IsObject) :
    ∃ needs : Bool, inclusions (.arr entries) = .ok (if needs then [familyHeader] else []) := by
  obtain ⟨needs, hneeds⟩ := anyNeedsHeader_eq h
  refine ⟨needs, ?_⟩
  rw [inclusions, Value.items_arr]
  dsimp only [bind, Except.bind]
  rw [hneeds]
  rfl

/-! ### Declaration -/

lemma oneLine_name (i : ℕ) : OneLine (numbered "display" i) := by
  rw [numbered]
  split_ifs
  · decide
  · exact OneLine.append (by decide) (oneLine_natCast i)

lemma leads_name (i : ℕ) : Leads "display" (numbered "display" i) := by
  rw [numbered]
  split_ifs
  · exact List.prefix_rfl
  · exact leads_append _ _

/-- The lines that declare the displays. -/
def declarationLines (entries : List Value) : List String :=
  "// oled_displays declaration" :: (entries.map driverOf).zipWith declarationLine
    ((List.range entries.length).map (numbered "display"))

lemma declare_eq (h : ∀ e ∈ entries, e.IsObject) :
    declare (.arr entries) = .ok (declarationLines entries) := by
  rw [declare, drivers_eq h]
  rfl

theorem declarationLines_led (h : ∀ e ∈ entries, OneLine (driverOf e)) :
    AllLed (leads .declaration) (declarationLines entries) := by
  have hdriver : "OledDisplay<" ∈ leads .declaration := by decide
  refine AllLed.cons (by decide) (List.mem_cons_self ..)
    (leads_append "// " "oled_displays declaration") (allLed_of_forall hdriver ?_)
  intro line hline
  rw [← List.map_uncurry_zip_eq_zipWith] at hline
  obtain ⟨⟨driver, name⟩, hmem, rfl⟩ := List.mem_map.1 hline
  obtain ⟨hdriver, hname⟩ := List.of_mem_zip hmem
  obtain ⟨e, he, rfl⟩ := List.mem_map.1 hdriver
  obtain ⟨i, -, rfl⟩ := List.mem_map.1 hname
  constructor
  · show OneLine ("OledDisplay<" ++ driverOf e ++ "> " ++ numbered "display" i ++ ";")
    simp only [oneLine_append_iff, and_assoc]
    exact ⟨by decide, h e he, by decide, oneLine_name i, by decide⟩
  · exact (((leads_append "OledDisplay<" _).append _).append _).append _

/-! ### Settings of a transport -/

/-- The settings of a transport, given or not. -/
def settingsIn : Value → String → Value
  | .obj fields, key => ((fields.lookup key).getD .null).orElse (.obj [])
  | _, _ => .obj []

lemma settingsOf_eq (h : e.IsObject) (key : String) :
    settingsOf e key = .ok (settingsIn e key) := by
  obtain ⟨fields, rfl⟩ := h
  rfl

lemma settingsIn_eq_field (h : e.IsObject) (key : String) :
    settingsIn e key = (e.field key).orElse (.obj []) := by
  obtain ⟨fields, rfl⟩ := h
  rfl

lemma settingsIn_fits (h : display.Fits EntryType.Fits e) {f : Schema.Field EntryType}
    {record : Record Scalar} (hf : f ∈ display.fields) (htype : f.type = .settings record) :
    record.Fits Scalar.Fits (settingsIn e f.spelling) := by
  have hnone : record.Fits Scalar.Fits (.obj []) := ⟨[], rfl, fun _ _ _ hw => by cases hw⟩
  obtain ⟨fields, rfl, hfields⟩ := h
  rw [settingsIn, Value.orElse]
  split_ifs with htruthy
  · cases hlookup : fields.lookup f.spelling with
    | none =>
      rw [hlookup] at htruthy
      cases htruthy
    | some w =>
      have hw := hfields f hf w hlookup
      rwa [htype] at hw
  · exact hnone

lemma oneLine_settingsIn (h : e.IsOneLine) (key : String) : (settingsIn e key).IsOneLine := by
  cases e with
  | obj fields =>
    rw [settingsIn, Value.orElse]
    split_ifs
    · exact h.get (Value.get_obj fields key)
    · trivial
  | _ => trivial

variable {settings : Value}

/-- The settings of the four-wire serial transport in a display. -/
lemma spiSettings_fits (h : display.Fits EntryType.Fits e) :
    spiSettings.Fits Scalar.Fits (settingsIn e "4_wire_spi_config") := by
  have hfield : ⟨"spi_config", some "4_wire_spi_config", .settings spiSettings⟩ ∈
      display.fields := by simp [display, entry]
  exact settingsIn_fits h hfield rfl

/-- The settings of the two-wire bus in a display. -/
lemma i2cSettings_fits (h : display.Fits EntryType.Fits e) :
    i2cSettings.Fits Scalar.Fits (settingsIn e "i2c_config") := by
  have hfield : .plain "i2c_config" (.settings i2cSettings) ∈ display.fields := by
    simp [display, entry]
  exact settingsIn_fits h hfield rfl

/-- A setting of a transport. -/
lemma oneLine_setting {record : Record Scalar} (h : record.Fits Scalar.Fits settings)
    (hone : settings.IsOneLine) {name : String} {type : Scalar}
    (hf : .plain name type ∈ record.fields) : OneLine (fieldOf settings name) :=
  oneLine_fieldOf h hone hf fun _ hw => hw

/-! ### Bringing up -/

/-- The lines that set up the four-wire serial transport. -/
def spiLinesOf (target : String) (settings : Value) : List String :=
  [target ++ ".pin_config.dc = " ++ pinOf settings "pin_dc" ++ ";",
    target ++ ".pin_config.reset = " ++ pinOf settings "pin_reset" ++ ";"]

/-- The lines that set up the two-wire bus. -/
def i2cLinesOf (target : String) (settings : Value) : List String :=
  [target ++ ".i2c_address = " ++ fieldOf settings "address" ++ ";",
    target ++ ".i2c_config.periph = I2CHandle::Config::Peripheral::" ++
      fieldOf settings "peripheral" ++ ";",
    target ++ ".i2c_config.speed = I2CHandle::Config::Speed::" ++
      fieldOf settings "speed" ++ ";",
    target ++ ".i2c_config.pin_config.sda = " ++ pinOf settings "pin_sda" ++ ";",
    target ++ ".i2c_config.pin_config.scl = " ++ pinOf settings "pin_scl" ++ ";"]

/-- The lines that set up the transport of a display. -/
def transportLinesOf (config : String) (e : Value) : List String :=
  let target := config ++ ".driver_config.transport_config"
  match e.get "transport" with
  | .ok (.str "4WireSpi") => spiLinesOf target (settingsIn e "4_wire_spi_config")
  | .ok (.str "I2c") => i2cLinesOf target (settingsIn e "i2c_config")
  | _ => []

/-- The lines that bring up a display. -/
def bringUpLinesOf (e : Value) (driver : String) (i : ℕ) : List String :=
  let config := "display_config" ++ toString i
  ("// Display " ++ toString i) :: ("OledDisplay<" ++ driver ++ ">::Config " ++ config ++ ";") ::
    transportLinesOf config e ++ [numbered "display" i ++ ".Init(" ++ config ++ ");"]

/-- The block that brings up the displays. -/
def bringUpBlock (entries : List Value) : List String :=
  bracketed "oled_displays" ((entries.zip (entries.map driverOf)).zipIdx.flatMap fun p =>
    bringUpLinesOf p.1.1 p.1.2 p.2)

/-- Whether a display has an object as the settings of its transport, if these are present. -/
structure IsConfigured (e : Value) : Prop where
  isObject : e.IsObject
  serial : e.get "transport" = .ok (.str "4WireSpi") →
    (settingsIn e "4_wire_spi_config").IsObject
  bus : e.get "transport" = .ok (.str "I2c") → (settingsIn e "i2c_config").IsObject

lemma isConfigured_of_fits (h : display.Fits EntryType.Fits e) : IsConfigured e where
  isObject := isObject_of_fits h
  serial _ := isObject_of_fits (spiSettings_fits h)
  bus _ := isObject_of_fits (i2cSettings_fits h)

variable {target config : String}

lemma spiLines_eq (h : settings.IsObject) (target : String) :
    spiLines target settings = .ok (spiLinesOf target settings) := by
  obtain ⟨fields, rfl⟩ := h
  rfl

lemma i2cLines_eq (h : settings.IsObject) (target : String) :
    i2cLines target settings = .ok (i2cLinesOf target settings) := by
  obtain ⟨fields, rfl⟩ := h
  rfl

lemma transportLines_eq (h : IsConfigured e) (config : String) :
    transportLines config e = .ok (transportLinesOf config e) := by
  obtain ⟨transport, htransport⟩ : ∃ transport, e.get "transport" = .ok transport := by
    obtain ⟨fields, rfl⟩ := h.isObject
    exact ⟨_, rfl⟩
  rw [transportLines, transportLinesOf, htransport, settingsOf_eq h.isObject,
    settingsOf_eq h.isObject]
  dsimp only [bind, Except.bind]
  split
  · exact spiLines_eq (h.serial htransport) _
  · exact i2cLines_eq (h.bus htransport) _
  next hspi hi2c =>
    split
    · next heq => exact absurd (Except.ok.inj heq) hspi
    · next heq => exact absurd (Except.ok.inj heq) hi2c
    · rfl

lemma bringUpLines_eq (h : IsConfigured e) (driver : String) (i : ℕ) :
    bringUpLines e driver i = .ok (bringUpLinesOf e driver i) := by
  have hunfold : bringUpLines e driver i =
      (transportLines ("display_config" ++ toString i) e).map fun transport =>
        ("// Display " ++ toString i) ::
          ("OledDisplay<" ++ driver ++ ">::Config " ++ ("display_config" ++ toString i) ++ ";") ::
          transport ++
        [numbered "display" i ++ ".Init(" ++ ("display_config" ++ toString i) ++ ");"] := rfl
  rw [hunfold, transportLines_eq h]
  rfl

/-- The block that brings up the displays. -/
theorem bringUp_eq (h : ∀ e ∈ entries, IsConfigured e) :
    bringUp (.arr entries) = .ok (bringUpBlock entries) := by
  have hblocks : (entries.zip (entries.map driverOf)).zipIdx.mapM
      (fun p => bringUpLines p.1.1 p.1.2 p.2) =
      .ok ((entries.zip (entries.map driverOf)).zipIdx.map fun p =>
        bringUpLinesOf p.1.1 p.1.2 p.2) := by
    refine mapM_eq_ok fun p hp => bringUpLines_eq (h _ ?_) p.1.2 p.2
    exact (List.of_mem_zip (List.fst_mem_of_mem_zipIdx hp)).1
  rw [bringUp, drivers_eq fun e he => (h e he).isObject, Value.length_arr,
    Value.items_arr]
  dsimp only [bind, Except.bind] at hblocks ⊢
  rw [hblocks]
  rfl

/-! ### How these lines open -/

/-- Whether a text can stand at the beginning of the lines about a display. -/
structure IsTarget (target : String) : Prop where
  oneLine : OneLine target
  leads : Leads "display" target

/-- A line that gives a setting of a transport its value. -/
lemma IsTarget.assigns (h : IsTarget target) {place value : String} (hplace : OneLine place)
    (hvalue : OneLine value) : OneLine (target ++ place ++ value ++ ";") ∧
      Leads "display" (target ++ place ++ value ++ ";") := by
  simp only [oneLine_append_iff]
  exact ⟨⟨⟨⟨h.oneLine, hplace⟩, hvalue⟩, by decide⟩,
    ((h.leads.append _).append _).append _⟩

/-- Whether all that is written of a display is on one line: what makes up its driver type, and the
settings of its transport. -/
structure IsWritten (e : Value) : Prop where
  driver : ∀ key ∈ driverKeys, OneLine (fieldOf e key)
  serial : e.get "transport" = .ok (.str "4WireSpi") → ∀ key ∈ ["pin_dc", "pin_reset"],
    OneLine (fieldOf (settingsIn e "4_wire_spi_config") key)
  bus : e.get "transport" = .ok (.str "I2c") →
    ∀ key ∈ ["address", "peripheral", "speed", "pin_sda", "pin_scl"],
      OneLine (fieldOf (settingsIn e "i2c_config") key)

lemma IsEntry.isWritten (h : IsEntry e) : IsWritten e where
  driver := h.oneLine_fieldOf_driver
  serial _ := by
    have hsetting (name : String) (hname : .plain name .pin ∈ spiSettings.fields) :=
      oneLine_setting (spiSettings_fits h.fits) (oneLine_settingsIn h.oneLine _) hname
    simp only [List.forall_mem_cons, List.not_mem_nil, false_imp_iff, implies_true, and_true]
    exact ⟨hsetting _ (by simp [spiSettings]), hsetting _ (by simp [spiSettings])⟩
  bus _ := by
    have hsetting (name : String) (type : Scalar) (hname : .plain name type ∈ i2cSettings.fields) :=
      oneLine_setting (i2cSettings_fits h.fits) (oneLine_settingsIn h.oneLine _) hname
    simp only [List.forall_mem_cons, List.not_mem_nil, false_imp_iff, implies_true, and_true]
    exact ⟨hsetting _ .pin (by simp [i2cSettings]), hsetting _ .text (by simp [i2cSettings]),
      hsetting _ .text (by simp [i2cSettings]), hsetting _ .pin (by simp [i2cSettings]),
      hsetting _ .pin (by simp [i2cSettings])⟩

lemma spiLinesOf_led (h : IsTarget target)
    (hsettings : ∀ key ∈ ["pin_dc", "pin_reset"], OneLine (fieldOf settings key)) :
    AllLed ["display"] (spiLinesOf target settings) := by
  refine allLed_of_forall (List.mem_cons_self ..) ?_
  simp only [spiLinesOf, List.forall_mem_cons, List.not_mem_nil, false_imp_iff, implies_true,
    and_true]
  exact ⟨h.assigns (by decide) (oneLine_pinOf (hsettings _ (by decide))),
    h.assigns (by decide) (oneLine_pinOf (hsettings _ (by decide)))⟩

lemma i2cLinesOf_led (h : IsTarget target)
    (hsettings : ∀ key ∈ ["address", "peripheral", "speed", "pin_sda", "pin_scl"],
      OneLine (fieldOf settings key)) :
    AllLed ["display"] (i2cLinesOf target settings) := by
  refine allLed_of_forall (List.mem_cons_self ..) ?_
  simp only [i2cLinesOf, List.forall_mem_cons, List.not_mem_nil, false_imp_iff, implies_true,
    and_true]
  exact ⟨h.assigns (by decide) (hsettings _ (by decide)),
    h.assigns (by decide) (hsettings _ (by decide)),
    h.assigns (by decide) (hsettings _ (by decide)),
    h.assigns (by decide) (oneLine_pinOf (hsettings _ (by decide))),
    h.assigns (by decide) (oneLine_pinOf (hsettings _ (by decide)))⟩

lemma transportLinesOf_led (hconfig : IsTarget config) (h : IsWritten e) :
    AllLed ["display"] (transportLinesOf config e) := by
  have htarget : IsTarget (config ++ ".driver_config.transport_config") :=
    ⟨hconfig.oneLine.append (by decide), hconfig.leads.append _⟩
  rw [transportLinesOf]
  split
  · next hspi => exact spiLinesOf_led htarget (h.serial hspi)
  · next hi2c => exact i2cLinesOf_led htarget (h.bus hi2c)
  · exact AllLed.nil _

lemma bringUpLinesOf_led (h : IsWritten e) {driver : String} (hdriver : OneLine driver) (i : ℕ) :
    AllLed (leads .initialization) (bringUpLinesOf e driver i) := by
  have hconfig : IsTarget ("display_config" ++ toString i) :=
    ⟨OneLine.append (by decide) (oneLine_natCast i),
      (leads_append "display" "_config").append _⟩
  have hdriverLead : "OledDisplay<" ∈ leads .initialization := by decide
  have hdisplayLead : "display" ∈ leads .initialization := by decide
  refine (AllLed.cons ?_ (List.mem_cons_self ..) ?_
    (AllLed.cons ?_ hdriverLead ?_ ?_)).append (AllLed.cons ?_ hdisplayLead ?_ (AllLed.nil _))
  · exact OneLine.append (by decide) (oneLine_natCast i)
  · exact (leads_append "// " "Display ").append _
  · simp only [oneLine_append_iff, and_assoc]
    exact ⟨by decide, hdriver, by decide, by decide, oneLine_natCast i,
      by decide⟩
  · exact (((leads_append "OledDisplay<" _).append _).append _).append _
  · intro line hline
    obtain ⟨hone, lead, hlead, hleads⟩ := transportLinesOf_led hconfig h line hline
    rw [List.mem_singleton] at hlead
    exact ⟨hone, "display", hdisplayLead, hlead ▸ hleads⟩
  · simp only [oneLine_append_iff, and_assoc]
    exact ⟨oneLine_name i, by decide, by decide, oneLine_natCast i,
      by decide⟩
  · exact (((leads_name i).append _).append _).append _

theorem bringUpBlock_led (h : ∀ e ∈ entries, IsWritten e) :
    AllLed (leads .initialization) (bringUpBlock entries) := by
  refine allLed_bracketed (by decide) (List.mem_cons_self ..) (AllLed.flatten ?_)
  intro block hblock
  obtain ⟨p, hp, rfl⟩ := List.mem_map.1 hblock
  obtain ⟨he, hdriver⟩ := List.of_mem_zip (List.fst_mem_of_mem_zipIdx hp)
  obtain ⟨e, he', hdriver⟩ := List.mem_map.1 hdriver
  rw [← hdriver]
  exact bringUpLinesOf_led (h _ he) (oneLine_driverOf (h e he').driver) p.2

end Display

end ControlSurface
