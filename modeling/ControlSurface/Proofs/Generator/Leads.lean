import ControlSurface.Proofs.Generator.Bank

/-!
# How the lines of banks open

The lines of a bank open with a few fixed words, whatever the entries are. If the fields and labels
that are written into them hold no line boundary then each of them is one line.
-/

namespace ControlSurface

open Text

/-- A block begins and ends with a comment. -/
lemma allLed_bracketed {leads lines : List String} {arrayName : String}
    (hname : OneLine arrayName) (hcomment : "// " ∈ leads) (h : AllLed leads lines) :
    AllLed leads (bracketed arrayName lines) := by
  refine (AllLed.cons ?_ hcomment ?_ h).append (AllLed.cons ?_ hcomment ?_ (AllLed.nil _))
  · simp only [oneLine_append_iff, and_assoc]
    exact ⟨by decide, hname, by decide⟩
  · exact (((leads_append "// " "BEGIN - ").append _).append _)
  · simp only [oneLine_append_iff, and_assoc]
    exact ⟨by decide, hname, by decide⟩
  · exact (((leads_append "// " "END - ").append _).append _)

lemma infix_bracketed (arrayName : String) (lines : List String) :
    lines <:+: bracketed arrayName lines :=
  (List.suffix_cons _ _).isInfix.trans (List.prefix_append _ _).isInfix

/-- The comments of a block open with no word but those that agree with a comment. -/
lemma filter_bracketed {word arrayName : String} {lines : List String}
    (hword : agree word "// " = false) :
    (bracketed arrayName lines).filter (opens word) = lines.filter (opens word) := by
  have hcomment {line : String} (hline : Leads "// " line) : opens word line = false :=
    hline.opens_eq_false (by decide) hword
  have hbegin : opens word s!"// BEGIN - {arrayName} initialization" = false :=
    hcomment (((leads_append "// " "BEGIN - ").append _).append _)
  have hend : opens word s!"// END - {arrayName} initialization" = false :=
    hcomment (((leads_append "// " "END - ").append _).append _)
  rw [bracketed, List.filter_append, filter_opens_cons_of_eq_false hbegin,
    filter_opens_cons_of_eq_false hend, List.filter_nil, List.append_nil]

namespace Bank

/-- What the declaration of the array opens with. -/
def arrayWord (b : Bank) : String := b.typeName ++ " " ++ b.arrayName ++ "["

/-- What a reference to a slot opens with. -/
def referenceWord (b : Bank) : String := b.typeName ++ "& "

/-- How the lines open that set up what a bank is brought up with. -/
def setUpLeads : Bank → List String
  | .controls => ["AdcChannelConfig ", "cfg[", "seed.adc."]
  | .gateInputs => ["dsy_gpio_pin ", "gate_input_pin "]
  | _ => []

/-- How the lines of a bank open. -/
def leads (b : Bank) : Phase → List String
  | .inclusion => []
  | .declaration => ["// ", b.typeName ++ " " ++ b.arrayName ++ "[", b.typeName ++ "& "]
  | .initialization => "// " :: (b.arrayName ++ "[") :: b.setUpLeads
  | .processing => ["// ", b.arrayName ++ "["]

/-- The fields of an entry that are written into the lines of a bank as they stand. -/
def writtenKeys : Bank → List String
  | .controls => ["pin"]
  | .encoders => ["pin_a", "pin_b", "pin_switch"]
  | .gateInputs => ["pin"]
  | .leds => ["pin"]
  | .rgbLeds => ["pin_r", "pin_g", "pin_b"]
  | .switches => ["pin", "type", "polarity", "pull"]

lemma oneLine_typeName (b : Bank) : OneLine b.typeName := by cases b <;> decide

lemma oneLine_arrayName (b : Bank) : OneLine b.arrayName := by cases b <;> decide

lemma oneLine_initArguments (b : Bank) {e : Value}
    (h : ∀ key ∈ b.writtenKeys, OneLine (fieldOf e key)) (i : ℕ) :
    OneLine (b.initArguments e i) := by
  have hcomma : OneLine ", " := by decide
  cases b with
  | controls =>
    show OneLine ("seed.adc.GetPtr(" ++ toString i ++ "), seed.AudioCallbackRate(), " ++
      flagOf e "flip" ++ ", " ++ flagOf e "invert")
    simp only [oneLine_append_iff, and_assoc]
    exact ⟨by decide, oneLine_natCast i, by decide, oneLine_flagOf e _, hcomma,
      oneLine_flagOf e _⟩
  | encoders =>
    show OneLine (pinOf e "pin_a" ++ ", " ++ pinOf e "pin_b" ++ ", " ++ pinOf e "pin_switch" ++
      ", seed.AudioCallbackRate()")
    simp only [oneLine_append_iff, and_assoc]
    exact ⟨oneLine_pinOf (h _ (by decide)), hcomma, oneLine_pinOf (h _ (by decide)), hcomma,
      oneLine_pinOf (h _ (by decide)), by decide⟩
  | gateInputs =>
    show OneLine "&gate_input_pin"
    decide
  | leds =>
    show OneLine (pinOf e "pin" ++ ", " ++ flagOf e "invert")
    simp only [oneLine_append_iff, and_assoc]
    exact ⟨oneLine_pinOf (h _ (by decide)), hcomma, oneLine_flagOf e _⟩
  | rgbLeds =>
    show OneLine (pinOf e "pin_r" ++ ", " ++ pinOf e "pin_g" ++ ", " ++ pinOf e "pin_b" ++ ", " ++
      flagOf e "invert")
    simp only [oneLine_append_iff, and_assoc]
    exact ⟨oneLine_pinOf (h _ (by decide)), hcomma, oneLine_pinOf (h _ (by decide)), hcomma,
      oneLine_pinOf (h _ (by decide)), hcomma, oneLine_flagOf e _⟩
  | switches =>
    show OneLine (pinOf e "pin" ++ ", seed.AudioCallbackRate(), Switch::Type::" ++
      fieldOf e "type" ++ ", Switch::Polarity::" ++ fieldOf e "polarity" ++ ", Switch::Pull::" ++
      fieldOf e "pull")
    simp only [oneLine_append_iff, and_assoc]
    exact ⟨oneLine_pinOf (h _ (by decide)), by decide, h _ (by decide), by decide,
      h _ (by decide), by decide, h _ (by decide)⟩

lemma oneLine_initLine (b : Bank) {e : Value} (h : ∀ key ∈ b.writtenKeys, OneLine (fieldOf e key))
    (i : ℕ) : OneLine (b.initLine e i) := by
  simp only [initLine, oneLine_append_iff, and_assoc]
  exact ⟨b.oneLine_arrayName, by decide, oneLine_natCast i, by decide,
    b.oneLine_initArguments h i, by decide⟩

lemma leads_initLine (b : Bank) (e : Value) (i : ℕ) :
    Leads (b.arrayName ++ "[") (b.initLine e i) :=
  (((leads_append _ _).append _).append _).append _

lemma oneLine_serviceLine (b : Bank) {method : String} (h : OneLine method) (i : ℕ) :
    OneLine (b.serviceLine method i) := by
  simp only [serviceLine, oneLine_append_iff, and_assoc]
  exact ⟨b.oneLine_arrayName, by decide, oneLine_natCast i, by decide, h,
    by decide⟩

lemma leads_serviceLine (b : Bank) (method : String) (i : ℕ) :
    Leads (b.arrayName ++ "[") (b.serviceLine method i) :=
  (((leads_append _ _).append _).append _).append _

/-! ### Phases -/

variable {entries : List Value}

/-- Every label names the slot of the entry that it belongs to. -/
lemma exists_of_mem_aliases {binding : String × ℕ} (h : binding ∈ Label.aliases entries) :
    ∃ e, entries[binding.2]? = some e ∧ binding.1 ∈ Label.namesOf e := by
  obtain ⟨⟨e, i⟩, hentry, hbinding⟩ := List.mem_flatMap.1 h
  obtain ⟨name, hname, rfl⟩ := List.mem_map.1 hbinding
  exact ⟨e, List.mem_zipIdx_iff_getElem?.1 hentry, hname⟩

lemma oneLine_arrayLine (b : Bank) (count : ℕ) : OneLine (b.arrayLine count) := by
  simp only [arrayLine, oneLine_append_iff, and_assoc]
  exact ⟨b.oneLine_typeName, by decide, b.oneLine_arrayName, by decide, oneLine_natCast count,
    by decide⟩

lemma leads_arrayLine (b : Bank) (count : ℕ) : Leads b.arrayWord (b.arrayLine count) :=
  (leads_append _ _).append _

lemma oneLine_shortcutLine (b : Bank) {name : String} (h : OneLine name) :
    OneLine (b.shortcutLine name) := by
  simp only [shortcutLine, oneLine_append_iff, and_assoc]
  exact ⟨b.oneLine_typeName, by decide, h, by decide, b.oneLine_arrayName, by decide⟩

lemma leads_shortcutLine (b : Bank) (name : String) : Leads b.referenceWord (b.shortcutLine name) :=
  (((leads_append _ _).append _).append _).append _

lemma oneLine_reference (b : Bank) {binding : Value × ℕ} (h : OneLine binding.1.text) :
    OneLine (Label.reference b.typeName b.arrayName binding) := by
  simp only [Label.reference, oneLine_append_iff, and_assoc]
  exact ⟨b.oneLine_typeName, by decide, h, by decide, b.oneLine_arrayName, by decide,
    oneLine_natCast binding.2, by decide⟩

lemma leads_reference (b : Bank) (binding : Value × ℕ) :
    Leads b.referenceWord (Label.reference b.typeName b.arrayName binding) :=
  (((((leads_append _ _).append _).append _).append _).append _).append _

lemma leads_aliasLine (b : Bank) (binding : String × ℕ) :
    Leads b.referenceWord (b.aliasLine binding) := b.leads_reference _

/-- The lines that declare a bank, whatever its labels are. -/
theorem allLed_references (b : Bank) (count : ℕ) {bindings : List (Value × ℕ)}
    (h : ∀ binding ∈ bindings, OneLine binding.1.text) :
    AllLed (b.leads .declaration)
      (b.declarationHead count ++ bindings.map (Label.reference b.typeName b.arrayName)) := by
  have harray : b.arrayWord ∈ b.leads .declaration := by simp [leads, arrayWord]
  have hreference : b.referenceWord ∈ b.leads .declaration := by simp [leads, referenceWord]
  refine (AllLed.cons ?_ (List.mem_cons_self ..) ?_
    (AllLed.cons (b.oneLine_arrayLine count) harray (b.leads_arrayLine count)
      (AllLed.nil _))).append ?_ |>.append ?_
  · simp only [oneLine_append_iff, and_assoc]
    exact ⟨by decide, b.oneLine_arrayName, by decide⟩
  · exact (leads_append _ _).append _
  · refine allLed_of_forall hreference ?_
    intro line hline
    obtain ⟨name, hname, rfl⟩ := List.mem_map.1 hline
    have hone : ∀ b : Bank, ∀ name ∈ b.shortcuts, OneLine name := by decide
    exact ⟨b.oneLine_shortcutLine (hone b name hname), b.leads_shortcutLine name⟩
  · refine allLed_of_forall hreference ?_
    intro line hline
    obtain ⟨binding, hbinding, rfl⟩ := List.mem_map.1 hline
    exact ⟨b.oneLine_reference (h binding hbinding), b.leads_reference binding⟩

/-- The case of labels that are texts. -/
theorem allLed_declaration (b : Bank) (count : ℕ)
    (h : ∀ e ∈ entries, ∀ name ∈ Label.namesOf e, OneLine name) :
    AllLed (b.leads .declaration)
      (b.declarationHead count ++ (Label.aliases entries).map b.aliasLine) := by
  have hreferences : (Label.aliases entries).map b.aliasLine =
      ((Label.aliases entries).map fun p => (Value.str p.1, p.2)).map
        (Label.reference b.typeName b.arrayName) := by
    rw [List.map_map]
    rfl
  rw [hreferences]
  refine b.allLed_references count ?_
  intro binding hbinding
  obtain ⟨⟨name, i⟩, halias, rfl⟩ := List.mem_map.1 hbinding
  obtain ⟨e, he, hname⟩ := exists_of_mem_aliases halias
  exact h e (List.mem_of_getElem? he) name hname

/-- The lines about the slots themselves. -/
lemma allLed_slots (b : Bank) (h : ∀ e ∈ entries, ∀ key ∈ b.writtenKeys, OneLine (fieldOf e key)) :
    AllLed (b.leads .initialization) (entries.zipIdx.map fun p => b.initLine p.1 p.2) := by
  refine allLed_of_forall (List.mem_cons_of_mem _ (List.mem_cons_self ..)) ?_
  intro line hline
  obtain ⟨p, hp, rfl⟩ := List.mem_map.1 hline
  exact ⟨b.oneLine_initLine (h p.1 (List.fst_mem_of_mem_zipIdx hp)) p.2, b.leads_initLine p.1 p.2⟩

lemma leads_channelLine (e : Value) (i : ℕ) : Leads "cfg[" (channelLine e i) :=
  (((leads_append _ _).append _).append _).append _

lemma leads_configLine (count : ℕ) :
    Leads "AdcChannelConfig " s!"AdcChannelConfig cfg[{count}];" :=
  ((leads_append "AdcChannelConfig " "cfg[").append _).append _

lemma leads_converterLine (count : ℕ) : Leads "seed.adc." s!"seed.adc.Init(cfg, {count});" :=
  ((leads_append "seed.adc." "Init(cfg, ").append _).append _

/-- Before the controls come the lines of their channels and of the converter. -/
lemma allLed_controls (h : ∀ e ∈ entries, ∀ key ∈ controls.writtenKeys, OneLine (fieldOf e key)) :
    AllLed (controls.leads .initialization) (initLines .controls entries) := by
  have hconfig : "AdcChannelConfig " ∈ controls.leads .initialization := by decide
  have hchannel : "cfg[" ∈ controls.leads .initialization := by decide
  have hconverter : "seed.adc." ∈ controls.leads .initialization := by decide
  have hchannels : AllLed (controls.leads .initialization)
      (entries.zipIdx.map fun p => channelLine p.1 p.2) := by
    refine allLed_of_forall hchannel ?_
    intro line hline
    obtain ⟨p, hp, rfl⟩ := List.mem_map.1 hline
    refine ⟨?_, leads_channelLine p.1 p.2⟩
    simp only [channelLine, oneLine_append_iff, and_assoc]
    exact ⟨by decide, oneLine_natCast p.2, by decide,
      oneLine_pinOf (h p.1 (List.fst_mem_of_mem_zipIdx hp) _ (by decide)), by decide⟩
  refine ((AllLed.cons ?_ hconfig ?_ hchannels).append
    (AllLed.cons ?_ hconverter ?_ (allLed_slots .controls h))).append
    (AllLed.cons ?_ hconverter ?_ (AllLed.nil _))
  · simp only [oneLine_append_iff]
    exact ⟨⟨by decide, oneLine_natCast _⟩, by decide⟩
  · exact leads_configLine _
  · simp only [oneLine_append_iff]
    exact ⟨⟨by decide, oneLine_natCast _⟩, by decide⟩
  · exact leads_converterLine _
  · decide
  · exact leads_append "seed.adc." "Start();"

lemma oneLine_gatePinLine {e : Value} (h : OneLine (fieldOf e "pin")) :
    OneLine (gatePinLine e) := by
  show OneLine ("gate_input_pin = " ++ pinOf e "pin" ++ ";")
  exact (OneLine.append (by decide) (oneLine_pinOf h)).append (by decide)

lemma leads_gatePinLine (e : Value) : Leads "gate_input_pin " (gatePinLine e) :=
  ((leads_append "gate_input_pin " "= ").append _).append _

/-- Before each gate input comes the line that binds its pin. -/
lemma allLed_gateInputs
    (h : ∀ e ∈ entries, ∀ key ∈ gateInputs.writtenKeys, OneLine (fieldOf e key)) :
    AllLed (gateInputs.leads .initialization) (initLines .gateInputs entries) := by
  have hhandle : "dsy_gpio_pin " ∈ gateInputs.leads .initialization := by decide
  have hpin : "gate_input_pin " ∈ gateInputs.leads .initialization := by decide
  have hslot : "gate_inputs[" ∈ gateInputs.leads .initialization := by decide
  refine AllLed.cons (by decide) hhandle (leads_append "dsy_gpio_pin " "gate_input_pin;") ?_
  rw [List.flatMap]
  refine AllLed.flatten ?_
  intro block hblock
  obtain ⟨p, hp, rfl⟩ := List.mem_map.1 hblock
  have hkeys := h p.1 (List.fst_mem_of_mem_zipIdx hp)
  exact AllLed.cons (oneLine_gatePinLine (hkeys _ (by decide))) hpin (leads_gatePinLine p.1)
    (AllLed.cons (gateInputs.oneLine_initLine hkeys p.2) hslot (gateInputs.leads_initLine p.1 p.2)
      (AllLed.nil _))

/-- The block that brings up a bank. -/
theorem allLed_initialization (b : Bank)
    (h : ∀ e ∈ entries, ∀ key ∈ b.writtenKeys, OneLine (fieldOf e key)) :
    AllLed (b.leads .initialization) (bracketed b.arrayName (b.initLines entries)) := by
  refine allLed_bracketed b.oneLine_arrayName (List.mem_cons_self ..) ?_
  cases b with
  | controls => exact allLed_controls h
  | gateInputs => exact allLed_gateInputs h
  | encoders => exact allLed_slots .encoders h
  | leds => exact allLed_slots .leds h
  | rgbLeds => exact allLed_slots .rgbLeds h
  | switches => exact allLed_slots .switches h

/-- The lines that service a bank. -/
theorem allLed_processing (b : Bank) {method : String} (hmethod : OneLine method) (count : ℕ) :
    AllLed (b.leads .processing)
      (s!"// process {b.arrayName}" :: b.serviceLines method count) := by
  refine AllLed.cons ?_ (List.mem_cons_self ..) ?_ (allLed_of_forall
    (List.mem_cons_of_mem _ (List.mem_cons_self ..)) ?_)
  · simp only [oneLine_append_iff]
    exact ⟨by decide, b.oneLine_arrayName⟩
  · exact (leads_append "// " "process ").append _
  · intro line hline
    obtain ⟨i, -, rfl⟩ := List.mem_map.1 hline
    exact ⟨b.oneLine_serviceLine hmethod i, b.leads_serviceLine method i⟩

end Bank

end ControlSurface
