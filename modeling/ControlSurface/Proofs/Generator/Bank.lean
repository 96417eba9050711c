import ControlSurface.Generator
import ControlSurface.Proofs.Generator.Declaration
import ControlSurface.Proofs.Generator.Field
import ControlSurface.Proofs.Text.Opening

/-!
# Lines of banks

The lines that bring up and service a bank, and how they open. Every slot has one line that brings
it up, made from the entry with its index.
-/

namespace ControlSurface

open Text

namespace Bank

/-! ### Bringing up -/

/-- What a slot is brought up with. -/
def initArguments : Bank → Value → ℕ → String
  | .controls, e, i =>
    s!"seed.adc.GetPtr({i}), seed.AudioCallbackRate(), " ++ flagOf e "flip" ++ ", " ++
      flagOf e "invert"
  | .encoders, e, _ =>
    pinOf e "pin_a" ++ ", " ++ pinOf e "pin_b" ++ ", " ++ pinOf e "pin_switch" ++
      ", seed.AudioCallbackRate()"
  | .gateInputs, _, _ => "&gate_input_pin"
  | .leds, e, _ => pinOf e "pin" ++ ", " ++ flagOf e "invert"
  | .rgbLeds, e, _ =>
    pinOf e "pin_r" ++ ", " ++ pinOf e "pin_g" ++ ", " ++ pinOf e "pin_b" ++ ", " ++
      flagOf e "invert"
  | .switches, e, _ =>
    pinOf e "pin" ++ ", seed.AudioCallbackRate(), Switch::Type::" ++ fieldOf e "type" ++
      ", Switch::Polarity::" ++ fieldOf e "polarity" ++ ", Switch::Pull::" ++ fieldOf e "pull"

/-- The line that brings up a slot. -/
def initLine (b : Bank) (e : Value) (i : ℕ) : String :=
  s!"{b.arrayName}[{i}].Init(" ++ b.initArguments e i ++ ");"

/-- The line that sets up the channel of a control. -/
def channelLine (e : Value) (i : ℕ) : String := s!"cfg[{i}].InitSingle(" ++ pinOf e "pin" ++ ");"

/-- The line that binds the pin of a gate input. -/
def gatePinLine (e : Value) : String := "gate_input_pin = " ++ pinOf e "pin" ++ ";"

/-- The lines that bring up a bank. -/
def initLines (b : Bank) (entries : List Value) : List String :=
  match b with
  | .controls =>
    s!"AdcChannelConfig cfg[{entries.length}];" ::
      entries.zipIdx.map (fun p => channelLine p.1 p.2) ++
      s!"seed.adc.Init(cfg, {entries.length});" ::
      entries.zipIdx.map (fun p => initLine .controls p.1 p.2) ++ ["seed.adc.Start();"]
  | .gateInputs =>
    "dsy_gpio_pin gate_input_pin;" ::
      entries.zipIdx.flatMap fun p => [gatePinLine p.1, initLine .gateInputs p.1 p.2]
  | b => entries.zipIdx.map fun p => b.initLine p.1 p.2

variable {entries : List Value}

lemma perEntry_eq {lines : Value → ℕ → Except Fault (List String)} {g : Value × ℕ → List String}
    (h : ∀ e ∈ entries, ∀ i, lines e i = .ok (g (e, i))) :
    perEntry entries lines = .ok (entries.zipIdx.flatMap g) := by
  have hlines : entries.zipIdx.mapM (fun p => lines p.1 p.2) = .ok (entries.zipIdx.map g) :=
    mapM_eq_ok fun p hp => h p.1 (List.fst_mem_of_mem_zipIdx hp) p.2
  rw [perEntry_eq_mapM, hlines, List.flatMap]
  rfl

lemma perEntry_eq_map {lines : Value → ℕ → Except Fault (List String)} {g : Value → ℕ → String}
    (h : ∀ e ∈ entries, ∀ i, lines e i = .ok [g e i]) :
    perEntry entries lines = .ok (entries.zipIdx.map fun p => g p.1 p.2) := by
  rw [List.map_eq_flatMap]
  exact perEntry_eq h

/-! Every generator puts its lines together from the same pieces, in another order. -/

lemma bringUpEncoder_eq {e : Value} (he : e.IsObject) (i : ℕ) :
    bringUpEncoder e i = .ok [initLine .encoders e i] := by
  have hline : initLine .encoders e i = "encoders[" ++ toString i ++ "].Init(" ++ pinOf e "pin_a" ++
      ", " ++ pinOf e "pin_b" ++ ", " ++ pinOf e "pin_switch" ++
      ", seed.AudioCallbackRate());" := by
    show "encoders[" ++ toString i ++ "].Init(" ++ (pinOf e "pin_a" ++ ", " ++ pinOf e "pin_b" ++
      ", " ++ pinOf e "pin_switch" ++ ", seed.AudioCallbackRate()") ++ ");" = _
    simp only [String.append_assoc]
    rfl
  obtain ⟨fields, rfl⟩ := he
  rw [hline]
  rfl

lemma bringUpGateInput_eq {e : Value} (he : e.IsObject) (i : ℕ) :
    bringUpGateInput e i = .ok [gatePinLine e, initLine .gateInputs e i] := by
  have hline : initLine .gateInputs e i = "gate_inputs[" ++ toString i ++
      "].Init(&gate_input_pin);" := by
    show "gate_inputs[" ++ toString i ++ "].Init(" ++ "&gate_input_pin" ++ ");" = _
    simp only [String.append_assoc]
    rfl
  obtain ⟨fields, rfl⟩ := he
  rw [hline]
  rfl

lemma bringUpLed_eq {e : Value} (he : e.IsObject) (i : ℕ) :
    bringUpLed e i = .ok [initLine .leds e i] := by
  have hline : initLine .leds e i = "leds[" ++ toString i ++ "].Init(" ++ pinOf e "pin" ++ ", " ++
      flagOf e "invert" ++ ");" := by
    show "leds[" ++ toString i ++ "].Init(" ++ (pinOf e "pin" ++ ", " ++ flagOf e "invert") ++
      ");" = _
    simp only [String.append_assoc]
  obtain ⟨fields, rfl⟩ := he
  rw [hline]
  rfl

lemma bringUpRgbLed_eq {e : Value} (he : e.IsObject) (i : ℕ) :
    bringUpRgbLed e i = .ok [initLine .rgbLeds e i] := by
  have hline : initLine .rgbLeds e i = "rgb_leds[" ++ toString i ++ "].Init(" ++
      pinOf e "pin_r" ++ ", " ++ pinOf e "pin_g" ++ ", " ++ pinOf e "pin_b" ++ ", " ++
      flagOf e "invert" ++ ");" := by
    show "rgb_leds[" ++ toString i ++ "].Init(" ++ (pinOf e "pin_r" ++ ", " ++ pinOf e "pin_g" ++
      ", " ++ pinOf e "pin_b" ++ ", " ++ flagOf e "invert") ++ ");" = _
    simp only [String.append_assoc]
  obtain ⟨fields, rfl⟩ := he
  rw [hline]
  rfl

lemma bringUpSwitch_eq {e : Value} (he : e.IsObject) (i : ℕ) :
    bringUpSwitch e i = .ok [initLine .switches e i] := by
  have hline : initLine .switches e i = "switches[" ++ toString i ++ "].Init(" ++ pinOf e "pin" ++
      ", seed.AudioCallbackRate(), Switch::Type::" ++ fieldOf e "type" ++ ", " ++
      ("Switch::Polarity::" ++ fieldOf e "polarity" ++ ", Switch::Pull::" ++ fieldOf e "pull" ++
        ");") := by
    show "switches[" ++ toString i ++ "].Init(" ++ (pinOf e "pin" ++
      ", seed.AudioCallbackRate(), Switch::Type::" ++ fieldOf e "type" ++
      ", Switch::Polarity::" ++ fieldOf e "polarity" ++ ", Switch::Pull::" ++
      fieldOf e "pull") ++ ");" = _
    simp only [String.append_assoc]
    rfl
  obtain ⟨fields, rfl⟩ := he
  rw [hline]
  rfl

/-- The line that sets up the channel of a control, made from its entry. -/
def bringUpChannel (entry : Value) (i : ℕ) : Except Fault (List String) := do
  let pin ← pinText entry "pin"
  return [s!"cfg[{i}].InitSingle({pin});"]

/-- The line that brings up a control, made from its entry. -/
def bringUpControl (entry : Value) (i : ℕ) : Except Fault (List String) := do
  let flip ← flagText entry "flip"
  let invert ← flagText entry "invert"
  return [s!"controls[{i}].Init(seed.adc.GetPtr({i}), seed.AudioCallbackRate(), " ++
    s!"{flip}, {invert});"]

lemma bringUpControls_arr (entries : List Value) : bringUpControls (.arr entries) = (do
    let channels ← perEntry entries bringUpChannel
    let controls ← perEntry entries bringUpControl
    return s!"AdcChannelConfig cfg[{entries.length}];" :: channels ++
      s!"seed.adc.Init(cfg, {entries.length});" :: controls ++ ["seed.adc.Start();"]) := rfl

lemma bringUpControl_eq {e : Value} (he : e.IsObject) (i : ℕ) :
    bringUpControl e i = .ok [initLine .controls e i] := by
  have hsplit : "].Init(seed.adc.GetPtr(" = "].Init(" ++ "seed.adc.GetPtr(" := rfl
  have hline : initLine .controls e i = "controls[" ++ toString i ++ "].Init(seed.adc.GetPtr(" ++
      toString i ++ "), seed.AudioCallbackRate(), " ++
      (flagOf e "flip" ++ ", " ++ flagOf e "invert" ++ ");") := by
    show "controls[" ++ toString i ++ "].Init(" ++ ("seed.adc.GetPtr(" ++ toString i ++
      "), seed.AudioCallbackRate(), " ++ flagOf e "flip" ++ ", " ++ flagOf e "invert") ++ ");" = _
    rw [hsplit]
    simp only [String.append_assoc]
  obtain ⟨fields, rfl⟩ := he
  rw [hline]
  rfl

lemma bringUpControls_eq (h : ∀ e ∈ entries, e.IsObject) :
    bringUpControls (.arr entries) = .ok (initLines .controls entries) := by
  have hchannels : perEntry entries bringUpChannel =
      .ok (entries.zipIdx.map fun p => channelLine p.1 p.2) := by
    refine perEntry_eq_map fun e he i => ?_
    obtain ⟨fields, rfl⟩ := h e he
    rfl
  have hcontrols : perEntry entries bringUpControl =
      .ok (entries.zipIdx.map fun p => initLine .controls p.1 p.2) :=
    perEntry_eq_map fun e he => bringUpControl_eq (h e he)
  rw [bringUpControls_arr, hchannels, hcontrols]
  simp [initLines, pure, Except.pure, bind, Except.bind]

/-- The block that brings up a bank. -/
theorem bringUp_eq (b : Bank) (h : ∀ e ∈ entries, e.IsObject) :
    b.bringUp (.arr entries) = .ok (bracketed b.arrayName (b.initLines entries)) := by
  have hlines : b.bringUpLines (.arr entries) = .ok (b.initLines entries) := by
    cases b with
    | controls => exact bringUpControls_eq h
    | encoders => exact perEntry_eq_map fun e he => bringUpEncoder_eq (h e he)
    | gateInputs =>
      have hslots : perEntry entries bringUpGateInput =
          .ok (entries.zipIdx.flatMap fun p => [gatePinLine p.1, initLine .gateInputs p.1 p.2]) :=
        perEntry_eq fun e he => bringUpGateInput_eq (h e he)
      rw [bringUpLines, Value.items_arr]
      dsimp only [bind, Except.bind]
      rw [hslots]
      rfl
    | leds => exact perEntry_eq_map fun e he => bringUpLed_eq (h e he)
    | rgbLeds => exact perEntry_eq_map fun e he => bringUpRgbLed_eq (h e he)
    | switches => exact perEntry_eq_map fun e he => bringUpSwitch_eq (h e he)
  rw [bringUp, hlines]
  rfl

/-! ### Servicing -/

/-- The lines that service a bank. -/
def serviceLines (b : Bank) (method : String) (count : ℕ) : List String :=
  (List.range count).map (b.serviceLine method)

lemma serviceAll_eq (b : Bank) (method : String) (entries : List Value) :
    b.serviceAll method (.arr entries) =
      .ok (s!"// process {b.arrayName}" :: b.serviceLines method entries.length) := rfl

end Bank

end ControlSurface
