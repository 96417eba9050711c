import ControlSurface.Proofs.Generator.SingleDisplay
import ControlSurface.Proofs.Header.Banks

/-!
# The order in which everything is brought up

The board comes first. Then each kind has one block of statements, and what is set up for a kind is
set up before it is used: the converter is configured, initialized and started around the controls,
the pin of a gate input is bound right before the gate input is brought up, and a display is brought
up with a configuration of its own.
-/

namespace ControlSurface

open Schema Text

namespace Header

variable {d : Value} {k : Kind} {b : Bank} {word structName : String}
  {words block lines : List String}

/-- The statements of the routine that brings everything up. -/
def bringUpOf (lines : List String) : List String := bodyOf bringUpSignature lines

/-- Whether some lines stand together among others, of which none opens with one of some words. -/
def StandsOnce (words block lines : List String) : Prop :=
  ∃ front back, lines = front ++ block ++ back ∧ ∀ word ∈ words, Lacks word (front ++ back)

/-- How the routine that brings everything up goes about it. -/
structure BringsUp (d : Value) (lines : List String) : Prop where
  /-- The controls are the entries of two lists, one behind the other. -/
  merged : Description.slots d .analogControl =
    Description.listed d "analog_controls" ++ Description.listed d "cv_inputs"
  /-- The board is configured and brought up first, and not again. -/
  board : ∃ rest, bringUpOf lines =
      [deepIndent ++ "seed.Configure();", deepIndent ++ "seed.Init(boost);"] ++ rest ∧
    Lacks "seed.Configure(" rest ∧ Lacks "seed.Init(" rest
  /-- Each bank is brought up in one block. -/
  banks : ∀ (k : Kind) (b : Bank), k.bank? = some b → StandsOnce b.statementWords
    ((b.linesOf (Description.slots d k) .initialization).map (deepIndent ++ ·)) (bringUpOf lines)
  /-- The channels of the converter are declared once. -/
  channelsDeclared : (bringUpOf lines).filter (opens "AdcChannelConfig ") =
    if (Description.slots d .analogControl).isEmpty then []
    else [deepIndent ++ s!"AdcChannelConfig cfg[{(Description.slots d .analogControl).length}];"]
  /-- They are set up in ascending order. -/
  channels : (bringUpOf lines).filter (opens "cfg[") =
    (Description.slots d .analogControl).zipIdx.map fun p => deepIndent ++ Bank.channelLine p.1 p.2
  /-- The converter is initialized once for all of them and started once. -/
  converter : (bringUpOf lines).filter (opens "seed.adc.") =
    if (Description.slots d .analogControl).isEmpty then []
    else [
      deepIndent ++ s!"seed.adc.Init(cfg, {(Description.slots d .analogControl).length});",
      deepIndent ++ "seed.adc.Start();"]
  /-- The controls are brought up in ascending order. -/
  controls : (bringUpOf lines).filter (opens "controls[") =
    (Description.slots d .analogControl).zipIdx.map fun p =>
      deepIndent ++ Bank.initLine .controls p.1 p.2
  /-- The converter of the CV outputs is brought up in one block if there are any. -/
  outputs : StandsOnce ["DacHandle::", "dac_cfg", "seed.dac."]
    ((if (Description.listed d "cv_outputs").isEmpty then [] else [
      "// BEGIN - cv_outputs initialization",
      "DacHandle::Config dac_cfg;",
      "dac_cfg.bitdepth   = DacHandle::BitDepth::BITS_12;",
      "dac_cfg.buff_state = DacHandle::BufferState::ENABLED;",
      "dac_cfg.mode       = DacHandle::Mode::POLLING;",
      "dac_cfg.chn        = DacHandle::Channel::BOTH;",
      "seed.dac.Init(dac_cfg);",
      "seed.dac.WriteValue(DacHandle::Channel::BOTH, 0);",
      "// END - cv_outputs initialization"]).map (deepIndent ++ ·)) (bringUpOf lines)
  /-- The pin handle is declared once if there are gate inputs. -/
  handle : (bringUpOf lines).filter (opens "dsy_gpio_pin ") =
    if (Description.slots d .gateInput).isEmpty then []
    else [deepIndent ++ "dsy_gpio_pin gate_input_pin;"]
  /-- It is bound to the pin of a gate input right before that is brought up. -/
  bound : ∀ i e, (Description.slots d .gateInput)[i]? = some e →
    [deepIndent ++ Bank.gatePinLine e, deepIndent ++ Bank.initLine .gateInputs e i] <:+:
      bringUpOf lines
  /-- Displays are declared in the struct and configured in the routine, with the same drivers. -/
  drivers : lines.filter (opens "OledDisplay<") =
    ((Description.slots d .oledDisplay).zipIdx.map fun p =>
      indent ++ Display.declarationLine (Display.driverOf p.1) (numbered "display" p.2)) ++
    (Description.slots d .oledDisplay).zipIdx.map fun p =>
      deepIndent ++ Display.configLine (Display.driverOf p.1) p.2
  /-- One line declares the configuration of a display. -/
  configured : ∀ i, ((bringUpOf lines).filter fun line =>
      closes (Display.configEnd i) line && opens "OledDisplay<" line) =
    ((Description.slots d .oledDisplay)[i]?.map fun e =>
      deepIndent ++ Display.configLine (Display.driverOf e) i).toList
  /-- It stands with the lines that set up the transport of the display, and with the one that
  brings up the display behind them. -/
  displays : ∀ i, StandsOnce (Display.statementWords i)
    ((Display.linesAt (Description.slots d .oledDisplay) i).map (deepIndent ++ ·)) (bringUpOf lines)

/-! ### Lines that stand together -/

lemma standsOnce_of_isInfix (hwithin : block <:+: lines)
    (hfilter : ∀ word ∈ words, lines.filter (opens word) = block.filter (opens word)) :
    StandsOnce words block lines := by
  obtain ⟨front, back, rfl⟩ := hwithin
  refine ⟨front, back, rfl, fun word hword => lacks_of_filter ?_⟩
  have hlength := congrArg List.length (hfilter word hword)
  simp only [List.filter_append, List.length_append] at hlength
  rw [← List.length_eq_zero_iff, List.filter_append, List.length_append]
  omega

/-! ### Words of one kind -/

/-- Whether a word opens no statement that brings up the board or any other kind. -/
def IsOwn (k : Kind) (word : String) : Prop :=
  word ≠ "" ∧ Lacks word (bringUpBody []) ∧ ∀ k' ≠ k, ∀ lead ∈ k'.leads .initialization,
    isFlush lead = true ∧ agree word lead = false

instance (k : Kind) (word : String) : Decidable (IsOwn k word) :=
  inferInstanceAs (Decidable (word ≠ "" ∧ Lacks word (bringUpBody []) ∧
    ∀ k' ≠ k, ∀ lead ∈ k'.leads .initialization, isFlush lead = true ∧ agree word lead = false))

lemma IsOwn.of_leads {lead : String} (h : IsOwn k lead) (hlead : Leads lead word) :
    IsOwn k word := by
  obtain ⟨hne, hframe, hother⟩ := h
  refine ⟨?_, fun line hline => ?_, fun k' hk' other hmem => ?_⟩
  · rintro rfl
    exact hne (String.toList_eq_nil_iff.1 (List.prefix_nil.1 hlead))
  · rw [Bool.eq_false_iff]
    intro hopens
    have hfalse := hframe line hline
    rw [opens_of_leads hlead hopens] at hfalse
    cases hfalse
  · obtain ⟨hflush, hagree⟩ := hother k' hk' other hmem
    exact ⟨hflush, hlead.agree_eq_false hagree⟩

lemma isOwn_statementWords : ∀ k : Kind, ∀ b ∈ k.bank?, ∀ word ∈ b.statementWords,
    IsOwn k word ∧ agree word "// " = false := by
  decide

lemma isOwn_display : IsOwn .oledDisplay "display" := by decide

section BringUp

variable (hd : IsDescription d) (hone : d.IsOneLine)
include hd hone

lemma bringUpOf_linesOf (structName : String) :
    bringUpOf (linesOf d structName) = bringUpBody (textsOf d .initialization) :=
  bodyOf_bringUp hd hone structName

/-- A word of a kind is looked for in the lines that bring it up. -/
lemma filter_bringUpOf (hword : IsOwn k word) (structName : String) :
    (bringUpOf (linesOf d structName)).filter (opens word) =
      ((Description.linesOf d .initialization k).filter (opens word)).map (deepIndent ++ ·) := by
  obtain ⟨hne, hframe, hother⟩ := hword
  rw [bringUpOf_linesOf hd hone, filter_bringUpBody hd hone hne hframe,
    Description.opening_eq k, if_pos rfl]
  exact fun k' hk' => Description.filter_opens_linesOf hd hone (hother k' hk')

/-- Each kind is brought up in one block. -/
theorem standsOnce_linesOf (hwords : ∀ word ∈ words, IsOwn k word) (structName : String) :
    StandsOnce words ((Description.linesOf d .initialization k).map (deepIndent ++ ·))
      (bringUpOf (linesOf d structName)) := by
  refine standsOnce_of_isInfix ?_ fun word hword => ?_
  · rw [bringUpOf_linesOf hd hone]
    exact infix_bringUpBody hd hone k
  · rw [filter_bringUpOf hd hone (hwords word hword), filter_opens_indent isIndent_deepIndent]

lemma board_first (structName : String) : ∃ rest, bringUpOf (linesOf d structName) =
      [deepIndent ++ "seed.Configure();", deepIndent ++ "seed.Init(boost);"] ++ rest ∧
    Lacks "seed.Configure(" rest ∧ Lacks "seed.Init(" rest := by
  have hrest {word : String} (hword : IsForeign word .initialization) : Lacks word
      (if (textsOf d .initialization).isEmpty then []
        else "" :: region (textsOf d .initialization) deepIndent) := by
    split_ifs
    · exact fun _ hline => absurd hline List.not_mem_nil
    · exact List.forall_mem_cons.2 ⟨opens_empty hword.1,
        lacks_region hd hone isIndent_deepIndent hword _⟩
  refine ⟨_, bringUpOf_linesOf hd hone structName, hrest ?_, hrest ?_⟩ <;> decide

/-! ### Banks -/

/-- A word of a bank among the statements. -/
lemma filter_bringUpOf_bank (hb : k.bank? = some b) (hword : word ∈ b.statementWords)
    (structName : String) : (bringUpOf (linesOf d structName)).filter (opens word) =
      if (Description.slots d k).isEmpty then []
      else ((b.initLines (Description.slots d k)).filter (opens word)).map (deepIndent ++ ·) := by
  obtain ⟨hown, hcomment⟩ := isOwn_statementWords k b hb word hword
  rw [filter_bringUpOf hd hone hown, Description.linesOf_bank hd hb, Bank.linesOf]
  split_ifs
  · rfl
  · rw [filter_bracketed hcomment]

/-- A word of the controls among the statements. -/
lemma filter_bringUpOf_controls (hword : word ∈ Bank.controls.statementWords)
    (structName : String) : (bringUpOf (linesOf d structName)).filter (opens word) =
      if (Description.slots d .analogControl).isEmpty then []
      else ((Bank.initLines .controls (Description.slots d .analogControl)).filter
        (opens word)).map (deepIndent ++ ·) :=
  filter_bringUpOf_bank hd hone rfl hword structName

lemma filter_bringUpOf_channels (structName : String) :
    (bringUpOf (linesOf d structName)).filter (opens "cfg[") =
      (Description.slots d .analogControl).zipIdx.map fun p =>
        deepIndent ++ Bank.channelLine p.1 p.2 := by
  rw [filter_bringUpOf_controls hd hone (by decide), Bank.filter_initLines_controls (by decide)]
  cases Description.slots d .analogControl with
  | nil => rfl
  | cons e rest => simp [Bank.slotWord, Bank.arrayName]

lemma filter_bringUpOf_handle (structName : String) :
    (bringUpOf (linesOf d structName)).filter (opens "dsy_gpio_pin ") =
      if (Description.slots d .gateInput).isEmpty then []
      else [deepIndent ++ "dsy_gpio_pin gate_input_pin;"] := by
  have hword : "dsy_gpio_pin " ∈ Bank.gateInputs.statementWords := by decide
  rw [filter_bringUpOf_bank hd hone (rfl : Kind.gateInput.bank? = some .gateInputs) hword,
    Bank.filter_initLines_gateInputs hword]
  have hrest : ((Description.slots d .gateInput).zipIdx.flatMap fun _ => ([] : List String)) = [] :=
    List.flatMap_eq_nil_iff.2 fun _ _ => rfl
  simp [Bank.slotWord, Bank.arrayName, hrest]

/-- A gate input has its pin bound right before it is brought up. -/
lemma bound_isInfix {i : ℕ} {e : Value} (he : (Description.slots d .gateInput)[i]? = some e)
    (structName : String) :
    [deepIndent ++ Bank.gatePinLine e, deepIndent ++ Bank.initLine .gateInputs e i] <:+:
      bringUpOf (linesOf d structName) := by
  have hmem : [Bank.gatePinLine e, Bank.initLine .gateInputs e i] ∈
      (Description.slots d .gateInput).zipIdx.map fun p =>
        [Bank.gatePinLine p.1, Bank.initLine .gateInputs p.1 p.2] :=
    List.mem_map.2 ⟨(e, i), List.mem_zipIdx_iff_getElem?.2 he, rfl⟩
  have hpair : [Bank.gatePinLine e, Bank.initLine .gateInputs e i] <:+:
      Bank.initLines .gateInputs (Description.slots d .gateInput) :=
    (List.infix_of_mem_flatten hmem).trans (List.suffix_cons _ _).isInfix
  have hslots : Description.slots d .gateInput ≠ [] := List.ne_nil_of_mem (List.mem_of_getElem? he)
  have hlines := initLines_infix hd hone rfl hslots structName
  exact (hpair.map _).trans hlines

/-! ### Displays -/

lemma filter_bringUpOf_config (structName : String) :
    (bringUpOf (linesOf d structName)).filter (opens "OledDisplay<") =
      (Description.slots d .oledDisplay).zipIdx.map fun p =>
        deepIndent ++ Display.configLine (Display.driverOf p.1) p.2 := by
  have hown : IsOwn .oledDisplay "OledDisplay<" := by decide
  rw [filter_bringUpOf hd hone hown, Description.linesOf_oledDisplay_initialization hd]
  split_ifs with hempty
  · rw [List.isEmpty_iff.1 hempty]
    rfl
  · rw [Display.filter_bringUpBlock_config, List.map_map]
    rfl

/-- Among the declarations only displays are of a driver type. -/
lemma opening_declaration_oledDisplay :
    Description.opening d .declaration (fun _ => true) "OledDisplay<" =
      (Description.slots d .oledDisplay).zipIdx.map fun p =>
        Display.declarationLine (Display.driverOf p.1) (numbered "display" p.2) := by
  have hother : ∀ k ≠ Kind.oledDisplay, ∀ lead ∈ k.leads .declaration,
      isFlush lead = true ∧ agree "OledDisplay<" lead = false := by
    decide
  rw [Description.opening_eq .oledDisplay fun k hk =>
    Description.filter_opens_linesOf hd hone (hother k hk), if_pos rfl,
    Description.linesOf_oledDisplay hd]
  split_ifs with hempty
  · rw [List.isEmpty_iff.1 hempty]
    rfl
  · exact Display.filter_declarationLines _

/-- Nothing that is called in every tick has a driver type. -/
lemma opening_processing_oledDisplay (selected : Kind → Bool) :
    Description.opening d .processing selected "OledDisplay<" = [] := by
  have hleads : ∀ k : Kind, ∀ lead ∈ k.leads .processing,
      isFlush lead = true ∧ agree "OledDisplay<" lead = false := by
    decide
  refine List.flatMap_eq_nil_iff.2 fun k _ => ?_
  split_ifs
  · exact Description.filter_opens_linesOf hd hone (hleads k)
  · rfl

lemma filter_linesOf_oledDisplay (structName : String) :
    (linesOf d structName).filter (opens "OledDisplay<") =
      ((Description.slots d .oledDisplay).zipIdx.map fun p =>
        indent ++ Display.declarationLine (Display.driverOf p.1) (numbered "display" p.2)) ++
      (Description.slots d .oledDisplay).zipIdx.map fun p =>
        deepIndent ++ Display.configLine (Display.driverOf p.1) p.2 := by
  have hduties : (duties.flatMap fun duty => (Description.opening d .processing
      (fun k => duty.kinds.contains k) "OledDisplay<").map (deepIndent ++ ·)) = [] := by
    refine List.flatMap_eq_nil_iff.2 fun duty _ => ?_
    rw [opening_processing_oledDisplay hd hone, List.map_nil]
  rw [filter_linesOf hd hone (by decide) (by decide) (by decide),
    opening_declaration_oledDisplay hd hone, ← filter_bringUpBody hd hone (by decide) (by decide),
    ← bringUpOf_linesOf hd hone structName, filter_bringUpOf_config hd hone, hduties,
    List.append_nil, List.map_map]
  rfl

/-- One line declares the configuration of a display. -/
lemma filter_configEnd (i : ℕ) (structName : String) :
    ((bringUpOf (linesOf d structName)).filter fun line =>
      closes (Display.configEnd i) line && opens "OledDisplay<" line) =
      ((Description.slots d .oledDisplay)[i]?.map fun e =>
        deepIndent ++ Display.configLine (Display.driverOf e) i).toList := by
  have hindent (lines : List String) : (lines.map (deepIndent ++ ·)).filter
      (closes (Display.configEnd i)) =
      (lines.filter (closes (Display.configEnd i))).map (deepIndent ++ ·) := by
    rw [List.filter_map]
    exact congrArg _ (List.filter_congr fun line _ => closes_indent isIndent_deepIndent _ line)
  have hconfigs : ((Description.slots d .oledDisplay).zipIdx.map fun p =>
      deepIndent ++ Display.configLine (Display.driverOf p.1) p.2) =
      ((Description.slots d .oledDisplay).zipIdx.map fun p =>
        Display.configLine (Display.driverOf p.1) p.2).map (deepIndent ++ ·) := by
    rw [List.map_map]
    rfl
  rw [← List.filter_filter, filter_bringUpOf_config hd hone, hconfigs, hindent,
    Display.filter_closes_configLine]
  cases (Description.slots d .oledDisplay)[i]? <;> rfl

/-- A display is brought up in one block. -/
lemma standsOnce_display (i : ℕ) (structName : String) : StandsOnce (Display.statementWords i)
    ((Display.linesAt (Description.slots d .oledDisplay) i).map (deepIndent ++ ·))
      (bringUpOf (linesOf d structName)) := by
  obtain ⟨hwithin, hfilter⟩ : Display.linesAt (Description.slots d .oledDisplay) i <:+:
      Description.linesOf d .initialization .oledDisplay ∧
      ∀ word ∈ Display.statementWords i,
        (Description.linesOf d .initialization .oledDisplay).filter (opens word) =
          (Display.linesAt (Description.slots d .oledDisplay) i).filter (opens word) := by
    rw [Description.linesOf_oledDisplay_initialization hd]
    split_ifs with hempty
    · rw [List.isEmpty_iff.1 hempty]
      exact ⟨List.nil_prefix.isInfix, fun _ _ => rfl⟩
    · exact ⟨Display.linesAt_isInfix _ i, fun _ hword => Display.filter_bringUpBlock _ hword⟩
  refine standsOnce_of_isInfix ?_ fun word hword => ?_
  · rw [bringUpOf_linesOf hd hone]
    exact (hwithin.map _).trans (infix_bringUpBody hd hone .oledDisplay)
  · have hown := isOwn_display.of_leads (Display.leads_statementWords word hword)
    rw [filter_bringUpOf hd hone hown, hfilter word hword, filter_opens_indent isIndent_deepIndent]

/-! ### The routine -/

theorem linesOf_bringsUp (structName : String) : BringsUp d (linesOf d structName) where
  merged := by simp [Description.slots, Kind.keys]
  board := board_first hd hone structName
  banks k b hb := by
    rw [← Description.linesOf_bank hd hb]
    exact standsOnce_linesOf hd hone (fun word hword => (isOwn_statementWords k b hb word hword).1)
      structName
  channelsDeclared := by
    rw [filter_bringUpOf_controls hd hone (by decide), Bank.filter_initLines_controls (by decide)]
    rfl
  channels := filter_bringUpOf_channels hd hone structName
  converter := by
    rw [filter_bringUpOf_controls hd hone (by decide), Bank.filter_initLines_controls (by decide)]
    rfl
  controls := by
    have hslots := filter_slotWord_bringUp hd hone (rfl : Kind.analogControl.bank? = some .controls)
      structName
    rwa [Bank.slotLines, List.map_map] at hslots
  outputs := by
    have hblock := standsOnce_linesOf hd hone
      (by decide : ∀ word ∈ ["DacHandle::", "dac_cfg", "seed.dac."], IsOwn .cvOutput word)
      structName
    rwa [Description.linesOf_cvOutput, Description.isEmpty_slots_cvOutput] at hblock
  handle := filter_bringUpOf_handle hd hone structName
  bound _ _ he := bound_isInfix hd hone he structName
  drivers := filter_linesOf_oledDisplay hd hone structName
  configured i := filter_configEnd hd hone i structName
  displays i := standsOnce_display hd hone i structName

end BringUp

/-- The header of a normalized description brings everything up in order. -/
theorem source_bringsUp {v d : Value} (h : normalizeHardware v = .ok d) (hone : d.IsOneLine) :
    ∃ text, source d defaultName = .ok text ∧ BringsUp d (splitLines text) := by
  have hd := isDescription_of_normalize h
  obtain ⟨text, htext, hlines⟩ := exists_source hd defaultName (by decide)
  exact ⟨text, htext, hlines ▸ linesOf_bringsUp hd hone defaultName⟩

/-- Two displays, one of them on the two-wire bus, with a control in either of the two lists, a gate
input and a CV output. -/
def displayPanel : Value := .obj [
  ("analog_controls", .arr [.obj [("pin", .int 15)]]),
  ("cv_inputs", .arr [.obj [("pin", .str "A1"), ("flip", .bool true)]]),
  ("cv_outputs", .arr [.obj []]),
  ("gate_inputs", .arr [.obj [("pin", .str "D20")]]),
  ("oled_displays", .arr [.obj [("transport", .str "4WireSpi")],
    .obj [("transport", .str "I2c"), ("i2c_config", .obj [("address", .int 60)])]])]

/-- The statements that bring them up. -/
theorem source_bringsUp_displays :
    (normalizeHardware displayPanel = .ok displayPanel ∧ displayPanel.IsOneLine) ∧
    ∃ text, source displayPanel defaultName = .ok text ∧ BringsUp displayPanel (splitLines text) ∧
      (bringUpOf (splitLines text)).filter (opens "AdcChannelConfig ") =
        ["        AdcChannelConfig cfg[2];"] ∧
      (bringUpOf (splitLines text)).filter (opens "cfg[") = [
        "        cfg[0].InitSingle(seed.GetPin(15));",
        "        cfg[1].InitSingle(seed.GetPin(A1));"] ∧
      (bringUpOf (splitLines text)).filter (opens "seed.adc.") =
        ["        seed.adc.Init(cfg, 2);", "        seed.adc.Start();"] ∧
      (bringUpOf (splitLines text)).filter (opens "controls[") = [
        "        controls[0].Init(seed.adc.GetPtr(0), seed.AudioCallbackRate(), false, false);",
        "        controls[1].Init(seed.adc.GetPtr(1), seed.AudioCallbackRate(), true, false);"] ∧
      StandsOnce ["DacHandle::", "dac_cfg", "seed.dac."] [
        "        // BEGIN - cv_outputs initialization",
        "        DacHandle::Config dac_cfg;",
        "        dac_cfg.bitdepth   = DacHandle::BitDepth::BITS_12;",
        "        dac_cfg.buff_state = DacHandle::BufferState::ENABLED;",
        "        dac_cfg.mode       = DacHandle::Mode::POLLING;",
        "        dac_cfg.chn        = DacHandle::Channel::BOTH;",
        "        seed.dac.Init(dac_cfg);",
        "        seed.dac.WriteValue(DacHandle::Channel::BOTH, 0);",
        "        // END - cv_outputs initialization"] (bringUpOf (splitLines text)) ∧
      (bringUpOf (splitLines text)).filter (opens "dsy_gpio_pin ") =
        ["        dsy_gpio_pin gate_input_pin;"] ∧
      [
        "        gate_input_pin = seed.GetPin(D20);",
        "        gate_inputs[0].Init(&gate_input_pin);"] <:+: bringUpOf (splitLines text) ∧
      (splitLines text).filter (opens "OledDisplay<") = [
        "    OledDisplay<4WireSpiDriver> display;",
        "    OledDisplay<I2cDriver> display1;",
        "        OledDisplay<4WireSpiDriver>::Config display_config0;",
        "        OledDisplay<I2cDriver>::Config display_config1;"] ∧
      StandsOnce ["display_config1.", "display1.Init("] [
        "        // Display 1",
        "        OledDisplay<I2cDriver>::Config display_config1;",
        "        display_config1.driver_config.transport_config.i2c_address = 60;",
        "        display_config1.driver_config.transport_config.i2c_config.periph = " ++
          "I2CHandle::Config::Peripheral::;",
        "        display_config1.driver_config.transport_config.i2c_config.speed = " ++
          "I2CHandle::Config::Speed::;",
        "        display_config1.driver_config.transport_config.i2c_config.pin_config.sda = " ++
          "seed.GetPin();",
        "        display_config1.driver_config.transport_config.i2c_config.pin_config.scl = " ++
          "seed.GetPin();",
        "        display1.Init(display_config1);"] (bringUpOf (splitLines text)) := by
  have h : normalizeHardware displayPanel = .ok displayPanel := rfl
  have hone : displayPanel.IsOneLine := by
    simp only [displayPanel, Value.IsOneLine, Value.FieldsAreOneLine, Value.AreOneLine, and_true]
    decide
  obtain ⟨text, htext, hbrings⟩ := source_bringsUp h hone
  exact ⟨⟨h, hone⟩, text, htext, hbrings, hbrings.channelsDeclared, hbrings.channels,
    hbrings.converter, hbrings.controls, hbrings.outputs, hbrings.handle, hbrings.bound 0 _ rfl,
    hbrings.drivers, hbrings.displays 1⟩

end Header

end ControlSurface
