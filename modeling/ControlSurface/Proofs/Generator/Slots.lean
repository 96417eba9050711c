import ControlSurface.Proofs.Generator.Fragment

/-!
# Lines about slots

Which lines of a bank declare its array, give its slots names, bring them up and service them, told
by what they open with.
-/

namespace ControlSurface

open Text

namespace Bank

variable {entries : List Value}

/-! ### Words -/

/-- What a statement about a slot opens with. -/
def slotWord (b : Bank) : String := b.arrayName ++ "["

/-- What a call of a method of a slot opens with. -/
def callWord (b : Bank) (slot : ℕ) (method : String) : String :=
  s!"{b.arrayName}[{slot}]." ++ method ++ "("

/-- The lines that service a bank, without the comment before them. -/
def servicing (b : Bank) (count : ℕ) : List String :=
  match b.service? with
  | some method => b.serviceLines method count
  | none => []

/-- The lines that bring up the slots of a bank, without those that set up anything else. -/
def slotLines (b : Bank) (entries : List Value) : List String :=
  entries.zipIdx.map fun p => b.initLine p.1 p.2

lemma isFlush_words : ∀ b : Bank, isFlush b.arrayWord = true ∧ isFlush b.referenceWord = true ∧
    isFlush b.slotWord = true := by
  decide

/-- The words of a bank do not agree with each other, nor with a comment. -/
lemma words_apart : ∀ b : Bank,
    agree b.arrayWord "// " = false ∧ agree b.arrayWord b.referenceWord = false ∧
    agree b.referenceWord "// " = false ∧ agree b.referenceWord b.arrayWord = false ∧
    agree b.slotWord "// " = false := by
  decide

/-! ### Declaration -/

/-- The references to the slots of a bank: the shortcuts to the first one, then the labels. -/
def referenceLines (b : Bank) (entries : List Value) : List String :=
  b.shortcuts.map b.shortcutLine ++ (Label.aliases entries).map b.aliasLine

lemma leads_referenceLines (b : Bank) :
    ∀ line ∈ b.referenceLines entries, Leads b.referenceWord line := by
  refine List.forall_mem_append.2 ⟨?_, ?_⟩
  · exact List.forall_mem_map.2 fun name _ => b.leads_shortcutLine name
  · exact List.forall_mem_map.2 fun binding _ => b.leads_aliasLine binding

lemma linesOf_declaration (b : Bank) : b.linesOf entries .declaration =
    if entries.isEmpty then []
    else s!"// {b.arrayName} declaration" :: b.arrayLine entries.length ::
      b.referenceLines entries := by
  rw [linesOf, declarationHead, referenceLines, List.append_assoc]
  rfl

lemma leads_declarationComment (b : Bank) : Leads "// " s!"// {b.arrayName} declaration" :=
  (leads_append _ _).append _

lemma filter_arrayWord (b : Bank) : (b.linesOf entries .declaration).filter (opens b.arrayWord) =
    if entries.isEmpty then [] else [b.arrayLine entries.length] := by
  obtain ⟨hflush, hreference, -⟩ := b.isFlush_words
  obtain ⟨hcomment, hapart, -⟩ := b.words_apart
  have hfirst := b.leads_declarationComment.opens_eq_false (by decide) hcomment
  have harray := (b.leads_arrayLine entries.length).opens hflush
  rw [linesOf_declaration]
  split_ifs
  · rfl
  · rw [filter_opens_cons_of_eq_false hfirst, filter_opens_cons harray,
      filter_opens_of_agree hreference hapart b.leads_referenceLines]

lemma filter_referenceWord (b : Bank) :
    (b.linesOf entries .declaration).filter (opens b.referenceWord) =
      if entries.isEmpty then [] else b.referenceLines entries := by
  obtain ⟨hflush, hreference, -⟩ := b.isFlush_words
  obtain ⟨-, -, hcomment, hapart, -⟩ := b.words_apart
  have hfirst := b.leads_declarationComment.opens_eq_false (by decide) hcomment
  have harray := (b.leads_arrayLine entries.length).opens_eq_false hflush hapart
  rw [linesOf_declaration]
  split_ifs
  · rfl
  · rw [filter_opens_cons_of_eq_false hfirst, filter_opens_cons_of_eq_false harray,
      filter_opens_of_leads hreference b.leads_referenceLines]

/-! ### Bringing up and servicing -/

lemma leads_slotLines (b : Bank) (entries : List Value) :
    ∀ line ∈ b.slotLines entries, Leads b.slotWord line :=
  List.forall_mem_map.2 fun p _ => b.leads_initLine p.1 p.2

lemma filter_slotLines (b : Bank) :
    (b.slotLines entries).filter (opens b.slotWord) = b.slotLines entries :=
  filter_opens_of_leads b.isFlush_words.2.2 (b.leads_slotLines entries)

lemma filter_servicing (b : Bank) (count : ℕ) :
    (b.servicing count).filter (opens b.slotWord) = b.servicing count := by
  refine filter_opens_of_leads b.isFlush_words.2.2 ?_
  rw [servicing]
  split
  · exact List.forall_mem_map.2 fun i _ => b.leads_serviceLine _ i
  · exact fun _ hline => absurd hline List.not_mem_nil

/-- What the lines of a bank open with that stand between its comments. -/
def statementWords (b : Bank) : List String := b.slotWord :: b.setUpLeads

lemma statementWords_apart : ∀ b : Bank, ∀ lead ∈ b.statementWords, isFlush lead = true ∧
    ∀ word ∈ b.statementWords, word ≠ lead → agree word lead = false := by
  decide

/-- Lines that all begin with one of these words. -/
lemma filter_statements {b : Bank} {word : String} {lines : List String}
    (hword : word ∈ b.statementWords) (lead : String) (hlead : lead ∈ b.statementWords)
    (h : ∀ line ∈ lines, Leads lead line) :
    lines.filter (opens word) = if word = lead then lines else [] :=
  have hapart := b.statementWords_apart lead hlead
  filter_opens_of_lead hapart.1 (hapart.2 word hword) h

/-- The lines that bring up the controls, told by what they open with. -/
lemma filter_initLines_controls {word : String} (hword : word ∈ controls.statementWords) :
    (initLines .controls entries).filter (opens word) =
      (if word = "AdcChannelConfig " then [s!"AdcChannelConfig cfg[{entries.length}];"] else []) ++
      (if word = "cfg[" then entries.zipIdx.map fun p => channelLine p.1 p.2 else []) ++
      (if word = "seed.adc." then [s!"seed.adc.Init(cfg, {entries.length});"] else []) ++
      (if word = controls.slotWord then slotLines .controls entries else []) ++
      (if word = "seed.adc." then ["seed.adc.Start();"] else []) := by
  have hconfig := filter_statements hword "AdcChannelConfig " (by decide)
    (List.forall_mem_singleton.2 (leads_configLine entries.length))
  have hchannels := filter_statements hword "cfg[" (by decide)
    (List.forall_mem_map.2 fun (p : Value × ℕ) (_ : p ∈ entries.zipIdx) =>
      leads_channelLine p.1 p.2)
  have hconverter := filter_statements hword "seed.adc." (by decide)
    (List.forall_mem_singleton.2 (leads_converterLine entries.length))
  have hslots := filter_statements hword controls.slotWord (List.mem_cons_self ..)
    (controls.leads_slotLines entries)
  have hstartLead : Leads "seed.adc." "seed.adc.Start();" := by decide
  have hstart := filter_statements hword "seed.adc." (by decide)
    (List.forall_mem_singleton.2 hstartLead)
  rw [← hconfig, ← hchannels, ← hconverter, ← hslots, ← hstart]
  simp only [← List.filter_append]
  rw [initLines, slotLines]
  simp only [List.cons_append, List.nil_append, List.append_assoc]

/-- The lines that bring up the gate inputs. -/
lemma filter_initLines_gateInputs {word : String} (hword : word ∈ gateInputs.statementWords) :
    (initLines .gateInputs entries).filter (opens word) =
      (if word = "dsy_gpio_pin " then ["dsy_gpio_pin gate_input_pin;"] else []) ++
      entries.zipIdx.flatMap fun p =>
        (if word = "gate_input_pin " then [gatePinLine p.1] else []) ++
        (if word = gateInputs.slotWord then [initLine .gateInputs p.1 p.2] else []) := by
  have hhandleLead : Leads "dsy_gpio_pin " "dsy_gpio_pin gate_input_pin;" := by decide
  have hhandle := filter_statements hword "dsy_gpio_pin " (by decide)
    (List.forall_mem_singleton.2 hhandleLead)
  have hpin (p : Value × ℕ) := filter_statements hword "gate_input_pin " (by decide)
    (List.forall_mem_singleton.2 (leads_gatePinLine p.1))
  have hslot (p : Value × ℕ) := filter_statements hword gateInputs.slotWord
    (List.mem_cons_self ..) (List.forall_mem_singleton.2 (gateInputs.leads_initLine p.1 p.2))
  rw [← hhandle]
  simp only [← hpin, ← hslot, ← List.filter_append]
  rw [← List.filter_flatMap, ← List.filter_append]
  rfl

/-- The lines about slots are all that opens with the array. -/
theorem filter_initLines (b : Bank) :
    (b.initLines entries).filter (opens b.slotWord) = b.slotLines entries := by
  cases b with
  | controls => simpa [slotWord, arrayName] using filter_initLines_controls (List.mem_cons_self ..)
  | gateInputs =>
    rw [filter_initLines_gateInputs (List.mem_cons_self ..), slotLines, List.map_eq_flatMap]
    simp [slotWord, arrayName]
  | encoders => exact filter_slotLines .encoders
  | leds => exact filter_slotLines .leds
  | rgbLeds => exact filter_slotLines .rgbLeds
  | switches => exact filter_slotLines .switches

lemma opens_comment {b : Bank} {line : String} (h : Leads "// " line) :
    opens b.slotWord line = false :=
  h.opens_eq_false (by decide) b.words_apart.2.2.2.2

lemma filter_slotWord_initialization (b : Bank) :
    (b.linesOf entries .initialization).filter (opens b.slotWord) = b.slotLines entries := by
  rw [linesOf]
  split_ifs with hempty
  · rw [List.isEmpty_iff.1 hempty]
    rfl
  · rw [filter_bracketed b.words_apart.2.2.2.2, filter_initLines]

lemma filter_slotWord_processing (b : Bank) :
    (b.linesOf entries .processing).filter (opens b.slotWord) = b.servicing entries.length := by
  have hcomment : opens b.slotWord s!"// process {b.arrayName}" = false :=
    opens_comment ((leads_append "// " "process ").append _)
  have hservicing := b.filter_servicing entries.length
  rw [linesOf]
  rw [servicing] at hservicing ⊢
  cases hservice : b.service? with
  | none => rfl
  | some method =>
    rw [hservice] at hservicing
    dsimp only at hservicing ⊢
    split_ifs with hempty
    · rw [List.isEmpty_iff.1 hempty]
      rfl
    · rw [filter_opens_cons_of_eq_false hcomment, hservicing]

/-! ### Single slots -/

/-- A statement about a slot opens with a call of the slot it is about, and of no other. -/
lemma opens_callWord_iff (b : Bank) (i j : ℕ) (method rest : String) :
    opens (b.callWord i method) (s!"{b.arrayName}[{j}]." ++ rest) = true ↔
      i = j ∧ (method ++ "(").toList <+: rest.toList := by
  have hbracket (tail : List Char) : NoDigitAhead ("].".toList ++ tail) := by
    intro c hc
    obtain rfl : ']' = c := Option.some_inj.1 hc
    rfl
  have hline : (s!"{b.arrayName}[{j}]." ++ rest).toList =
      b.slotWord.toList ++ ((toString j).toList ++ ("].".toList ++ rest.toList)) := by
    simp only [slotWord, String.toList_append, List.append_assoc]
    rfl
  have hword : (b.callWord i method).toList =
      b.slotWord.toList ++ ((toString i).toList ++ ("].".toList ++ (method ++ "(").toList)) := by
    simp only [callWord, slotWord, String.toList_append, List.append_assoc]
    rfl
  have hleads : Leads b.slotWord (s!"{b.arrayName}[{j}]." ++ rest) :=
    ((leads_append _ _).append _).append _
  have hflush : isFlush (s!"{b.arrayName}[{j}]." ++ rest) = true :=
    hleads.isFlush b.isFlush_words.2.2
  rw [opens_of_isFlush hflush, List.isPrefixOf_iff_prefix, hline, hword,
    List.prefix_append_right_inj]
  constructor
  · rintro ⟨tail, htail⟩
    rw [List.append_assoc, List.append_assoc] at htail
    obtain ⟨hij, hrest⟩ := number_append_inj (hbracket _) (hbracket _) htail
    exact ⟨hij, tail, List.append_cancel_left hrest⟩
  · rintro ⟨rfl, hprefix⟩
    rw [List.prefix_append_right_inj, List.prefix_append_right_inj]
    exact hprefix

lemma initLine_eq (b : Bank) (e : Value) (i : ℕ) :
    b.initLine e i = s!"{b.arrayName}[{i}]." ++ ("Init(" ++ (b.initArguments e i ++ ");")) := by
  have hsplit : "].Init(" = "]." ++ "Init(" := rfl
  show b.arrayName ++ "[" ++ toString i ++ "].Init(" ++ b.initArguments e i ++ ");" =
    b.arrayName ++ "[" ++ toString i ++ "]." ++ ("Init(" ++ (b.initArguments e i ++ ");"))
  rw [hsplit]
  simp only [String.append_assoc]

lemma serviceLine_eq (b : Bank) (method : String) (i : ℕ) :
    b.serviceLine method i = s!"{b.arrayName}[{i}]." ++ (method ++ "(" ++ ");") := by
  have hsplit : "();" = "(" ++ ");" := rfl
  show b.arrayName ++ "[" ++ toString i ++ "]." ++ method ++ "();" =
    b.arrayName ++ "[" ++ toString i ++ "]." ++ (method ++ "(" ++ ");")
  rw [hsplit]
  simp only [String.append_assoc]

/-- Bringing up is not servicing. -/
lemma agree_init_of_service : ∀ b : Bank, ∀ method ∈ b.service?,
    agree (method ++ "(") "Init(" = false ∧ agree ("Init" ++ "(") (method ++ "(") = false := by
  decide

lemma opens_init_initLine (b : Bank) (e : Value) (i j : ℕ) :
    opens (b.callWord i "Init") (b.initLine e j) = decide (j = i) := by
  rw [Bool.eq_iff_iff, initLine_eq, opens_callWord_iff, decide_eq_true_iff, eq_comm (a := i)]
  exact and_iff_left (leads_append "Init(" _)

lemma opens_service_serviceLine (b : Bank) (method : String) (i j : ℕ) :
    opens (b.callWord i method) (b.serviceLine method j) = decide (j = i) := by
  rw [Bool.eq_iff_iff, serviceLine_eq, opens_callWord_iff, decide_eq_true_iff, eq_comm (a := i)]
  exact and_iff_left (leads_append _ _)

lemma opens_service_initLine {b : Bank} {method : String} (h : b.service? = some method)
    (e : Value) (i j : ℕ) : opens (b.callWord i method) (b.initLine e j) = false := by
  rw [Bool.eq_false_iff, ne_eq, initLine_eq, opens_callWord_iff]
  rintro ⟨-, hprefix⟩
  exact (leads_append "Init(" _).not_leads (agree_init_of_service b _ h).1 hprefix

lemma opens_init_serviceLine {b : Bank} {method : String} (h : b.service? = some method)
    (i j : ℕ) : opens (b.callWord i "Init") (b.serviceLine method j) = false := by
  rw [Bool.eq_false_iff, ne_eq, serviceLine_eq, opens_callWord_iff]
  rintro ⟨-, hprefix⟩
  exact (leads_append _ _).not_leads (agree_init_of_service b _ h).2 hprefix

lemma filter_zipIdx_eq {α : Type} (l : List α) (n i : ℕ) :
    (l.zipIdx n).filter (fun p => decide (p.2 = n + i)) =
      (l[i]?.map fun a => (a, n + i)).toList := by
  induction l generalizing n i with
  | nil => rfl
  | cons a l ih =>
    rw [List.zipIdx_cons]
    cases i with
    | zero =>
      have hrest : (l.zipIdx (n + 1)).filter (fun p => decide (p.2 = n + 0)) = [] := by
        rw [List.filter_eq_nil_iff]
        intro p hp
        have hle := List.le_snd_of_mem_zipIdx hp
        simp only [decide_eq_true_eq]
        omega
      rw [List.filter_cons_of_pos (by simp), hrest]
      rfl
    | succ i =>
      rw [List.filter_cons_of_neg (by simp), List.getElem?_cons_succ,
        show n + (i + 1) = n + 1 + i by omega]
      exact ih (n + 1) i

lemma filter_init_slotLines (b : Bank) (entries : List Value) (i : ℕ) :
    (b.slotLines entries).filter (opens (b.callWord i "Init")) =
      (entries[i]?.map fun e => b.initLine e i).toList := by
  have hindex := filter_zipIdx_eq entries 0 i
  rw [Nat.zero_add] at hindex
  rw [slotLines, List.filter_map]
  simp only [Function.comp_def, opens_init_initLine, hindex]
  cases entries[i]? <;> rfl

lemma filter_service_serviceLines (b : Bank) (method : String) (count i : ℕ) :
    (b.serviceLines method count).filter (opens (b.callWord i method)) =
      if i < count then [b.serviceLine method i] else [] := by
  have hrange : (List.range count).filter (fun j => decide (j = i)) =
      if i < count then [i] else [] := by
    rw [List.filter_eq, List.nodup_range.count]
    simp only [List.mem_range]
    split_ifs <;> rfl
  rw [serviceLines, List.filter_map]
  simp only [Function.comp_def, opens_service_serviceLine, hrange]
  split_ifs <;> rfl

/-- The line that brings up a slot is found by its call. -/
theorem filter_init (b : Bank) (entries : List Value) (i : ℕ) :
    (b.slotLines entries ++ b.servicing entries.length).filter (opens (b.callWord i "Init")) =
      (entries[i]?.map fun e => b.initLine e i).toList := by
  have hservicing : (b.servicing entries.length).filter (opens (b.callWord i "Init")) = [] := by
    rw [servicing]
    split
    · next method hmethod =>
      rw [List.filter_eq_nil_iff, serviceLines, List.forall_mem_map]
      intro j _
      rw [opens_init_serviceLine hmethod]
      exact Bool.false_ne_true
    · rfl
  rw [List.filter_append, filter_init_slotLines, hservicing, List.append_nil]

/-- So is the line that services a slot. -/
theorem filter_service {b : Bank} {method : String} (h : b.service? = some method)
    (entries : List Value) (i : ℕ) :
    (b.slotLines entries ++ b.servicing entries.length).filter (opens (b.callWord i method)) =
      if i < entries.length then [b.serviceLine method i] else [] := by
  have hslots : (b.slotLines entries).filter (opens (b.callWord i method)) = [] := by
    rw [List.filter_eq_nil_iff, slotLines, List.forall_mem_map]
    intro p _
    rw [opens_service_initLine h]
    exact Bool.false_ne_true
  have hservicing : b.servicing entries.length = b.serviceLines method entries.length := by
    rw [servicing, h]
  rw [List.filter_append, hslots, hservicing, filter_service_serviceLines, List.nil_append]

end Bank

end ControlSurface
