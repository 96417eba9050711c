import ControlSurface.Proofs.Header.Layout
import ControlSurface.Proofs.Text.Declared
import ControlSurface.Proofs.Unlabelled

/-!
# Declared members

The members that the struct of a header declares, read off its text, are those that are listed for
its description. Statements never pass for members: whatever texts they are made from, their lines
are behind a deeper indent, or blank.
-/

namespace ControlSurface

open Schema Text

namespace Header

/-! ### Reading members -/

/-- What a line holds behind one indent, if there are no more spaces. -/
def memberText? (line : String) : Option (List Char) :=
  (line.toList.dropPrefix? indent.toList).filter fun s => s.head? ≠ some ' '

/-- The name that a line declares as a member of the struct. -/
def declaredName? (line : String) : Option String := (memberText? line).bind nameIn?

/-- The names that the struct of a header declares, in their order. -/
def declaredNames (text : String) : List String := (splitLines text).filterMap declaredName?

lemma memberText?_eq_some_iff {line : String} {s : List Char} :
    memberText? line = some s ↔ line.toList = indent.toList ++ s ∧ s.head? ≠ some ' ' := by
  simp [memberText?, Option.filter_eq_some_iff, List.dropPrefix?_eq_some_iff]

lemma declaredName?_indent {s : String} (h : isFlush s = true) :
    declaredName? (indent ++ s) = nameIn? s.toList := by
  have htext : memberText? (indent ++ s) = some s.toList := by
    rw [memberText?_eq_some_iff, String.toList_append]
    refine ⟨rfl, ?_⟩
    rw [isFlush] at h
    cases hchars : s.toList with
    | nil => simp
    | cons c rest =>
      rw [hchars] at h
      simpa using h
  rw [declaredName?, htext, Option.bind_some]

lemma declaredName?_deepIndent (s : String) : declaredName? (deepIndent ++ s) = none := by
  rw [declaredName?, Option.bind_eq_none_iff]
  intro text htext
  obtain ⟨hline, hspace⟩ := memberText?_eq_some_iff.1 htext
  have hdeep : deepIndent.toList = indent.toList ++ indent.toList := by decide
  rw [String.toList_append, hdeep, List.append_assoc] at hline
  rw [← List.append_cancel_left hline] at hspace
  exact absurd rfl hspace

lemma declaredName?_of_isBlankText {line : String} (h : isBlankText line = true) :
    declaredName? line = none := by
  rw [declaredName?, Option.bind_eq_none_iff]
  intro s hs
  obtain ⟨hline, hspace⟩ := memberText?_eq_some_iff.1 hs
  refine nameIn?_blank ?_ hspace
  rw [isBlankText, hline, List.all_append, Bool.and_eq_true] at h
  exact h.2

/-! ### Statements -/

/-- Whether none of some lines declares a member. -/
def DeclareNothing (lines : List String) : Prop := ∀ line ∈ lines, declaredName? line = none

instance (lines : List String) : Decidable (DeclareNothing lines) :=
  inferInstanceAs (Decidable (∀ line ∈ lines, declaredName? line = none))

lemma DeclareNothing.filterMap {lines : List String} (h : DeclareNothing lines) :
    lines.filterMap declaredName? = [] := List.filterMap_eq_nil_iff.2 h

lemma declareNothing_region (fragments : List String) :
    DeclareNothing (region fragments deepIndent) := by
  intro line hline
  rcases isBlankText_or_of_mem_region isIndent_deepIndent hline with hblank | ⟨rest, rfl⟩
  · exact declaredName?_of_isBlankText hblank
  · exact declaredName?_deepIndent rest

lemma declareNothing_bringUpBody (initializations : List String) :
    DeclareNothing (bringUpBody initializations) := by
  rw [bringUpBody]
  refine List.forall_mem_append.2 ⟨by decide, ?_⟩
  split_ifs
  · exact fun _ hline => absurd hline List.not_mem_nil
  · exact List.forall_mem_cons.2 ⟨by decide, declareNothing_region _⟩

/-- A routine declares its own name. -/
lemma filterMap_routine {signature name : String}
    (hsignature : declaredName? (indent ++ signature) = some name) {body : List String}
    (hbody : DeclareNothing body) :
    (routine signature body).filterMap declaredName? = [name] := by
  have hopen : declaredName? (indent ++ "\x7b") = none := by decide
  have hclose : DeclareNothing [indent ++ "\x7d", ""] := by decide
  rw [routine, List.filterMap_append, List.filterMap_append, hbody.filterMap, hclose.filterMap,
    List.filterMap_cons_some hsignature, List.filterMap_cons_none hopen]
  rfl

/-! ### Declarations -/

/-- The name that a line declares as a member once it is behind an indent. -/
def memberName? (line : String) : Option String := declaredName? (indent ++ line)

lemma isWord_bank : ∀ b : Bank, IsWord b.typeName ∧ IsWord b.arrayName := by decide

lemma memberName?_arrayLine (b : Bank) (count : ℕ) :
    memberName? (b.arrayLine count) = some b.arrayName := by
  have hflush : ∀ b : Bank, isFlush b.arrayWord = true := by decide
  have hchars : (b.arrayLine count).toList = b.typeName.toList ++ ' ' :: b.arrayName.toList ++
      '[' :: (toString count ++ "];").toList := by
    show (b.typeName ++ " " ++ b.arrayName ++ "[" ++ toString count ++ "];").toList = _
    simp [String.toList_append]
  rw [memberName?, declaredName?_indent ((b.leads_arrayLine count).isFlush (hflush b)), hchars]
  exact nameIn?_declaration (isWord_bank b).1 (isWord_bank b).2 (by decide) _

/-- A bank declares its members, labels left aside. -/
lemma filterMap_declarationHead (b : Bank) (count : ℕ) :
    (b.declarationHead count).filterMap memberName? = b.members := by
  have hcomment : ∀ b : Bank, memberName? s!"// {b.arrayName} declaration" = none := by decide
  have hshortcuts : ∀ b : Bank,
      (b.shortcuts.map b.shortcutLine).filterMap memberName? = b.shortcuts := by decide
  rw [Bank.declarationHead, List.filterMap_append, List.filterMap_cons_none (hcomment b),
    List.filterMap_cons_some (memberName?_arrayLine b count), hshortcuts]
  rfl

lemma isWord_display (i : ℕ) : IsWord (numbered "display" i) := by
  have hdisplay : IsWord "display" := by decide
  rw [numbered]
  split_ifs
  · exact hdisplay
  · refine hdisplay.append fun c hc => ?_
    rw [isWordChar, Char.isAlphanum, isDigit_of_mem_toString hc]
    simp

lemma memberName?_declarationLine (driver : String) (i : ℕ) :
    memberName? (Display.declarationLine driver (numbered "display" i)) =
      some (numbered "display" i) := by
  have hchars : (Display.declarationLine driver (numbered "display" i)).toList =
      "OledDisplay".toList ++ '<' :: (driver.toList ++ '>' :: ' ' ::
        (numbered "display" i).toList ++ [';']) := by
    show ("OledDisplay<" ++ driver ++ "> " ++ numbered "display" i ++ ";").toList = _
    simp [String.toList_append]
  have hleads : Leads "OledDisplay<" (Display.declarationLine driver (numbered "display" i)) :=
    (((leads_append "OledDisplay<" driver).append _).append _).append _
  rw [memberName?, declaredName?_indent (hleads.isFlush (by decide)), hchars]
  exact nameIn?_template (by decide) (isWord_display i) _

/-- Displays declare their names. -/
lemma filterMap_declarationLines (entries : List Value) :
    (Display.declarationLines entries).filterMap memberName? =
      (List.range entries.length).map (numbered "display") := by
  have hcomment : memberName? "// oled_displays declaration" = none := by decide
  have hlines : ∀ p ∈ (entries.map Display.driverOf).zip
      ((List.range entries.length).map (numbered "display")),
      memberName? (Display.declarationLine p.1 p.2) = some p.2 := by
    intro p hp
    obtain ⟨i, -, hi⟩ := List.mem_map.1 (List.of_mem_zip hp).2
    rw [← hi]
    exact memberName?_declarationLine p.1 i
  rw [Display.declarationLines, List.filterMap_cons_none hcomment,
    ← List.map_uncurry_zip_eq_zipWith, List.filterMap_map]
  refine (List.filterMap_congr hlines).trans ?_
  rw [List.filterMap_eq_map', List.map_snd_zip (by simp)]

variable {d : Value}

/-- Without labels, a kind declares the members that it introduces. -/
lemma filterMap_linesOf (hd : IsDescription d) (hlabels : Description.IsUnlabelled d) (k : Kind) :
    (Description.linesOf d .declaration k).filterMap memberName? =
      k.memberNames (Description.slots d k) := by
  cases hb : k.bank? with
  | some b =>
    rw [Description.linesOf_bank hd hb, Bank.linesOf, hlabels.aliases_eq, List.map_nil,
      List.append_nil, Kind.memberNames, if_neg (Kind.ne_oledDisplay_of_bank? hb), hb]
    split_ifs
    · rfl
    · exact filterMap_declarationHead b _
  | none =>
    cases k with
    | oledDisplay =>
      rw [Description.linesOf_oledDisplay hd, Kind.memberNames, if_pos rfl]
      split_ifs with hempty
      · rw [List.isEmpty_iff.1 hempty]
        rfl
      · exact filterMap_declarationLines _
    | cvOutput | gateOutput | midiHandler =>
      rw [Kind.memberNames, if_neg (by decide), hb]
      exact (ite_self _).symm
    | _ => cases hb

/-- Whether the driver types of all displays are written on one line. -/
def HasPlainDrivers (d : Value) : Prop :=
  ∀ e ∈ Description.slots d .oledDisplay, OneLine (Display.driverOf e)

/-- Declarations without labels have no line boundaries but for those of drivers. -/
lemma linesOf_declaration_led (hd : IsDescription d) (hlabels : Description.IsUnlabelled d)
    (hdrivers : HasPlainDrivers d) (k : Kind) :
    AllLed (k.leads .declaration) (Description.linesOf d .declaration k) := by
  cases hb : k.bank? with
  | some b =>
    rw [Description.linesOf_bank hd hb, Bank.linesOf, Kind.leads_of_bank hb]
    split_ifs
    · exact AllLed.nil _
    · refine b.allLed_declaration _ fun e he name hname => ?_
      rw [hlabels k e he] at hname
      exact absurd hname List.not_mem_nil
  | none =>
    cases k with
    | oledDisplay =>
      rw [Description.linesOf_oledDisplay hd]
      split_ifs
      · exact AllLed.nil _
      · exact Display.declarationLines_led hdrivers
    | cvOutput | gateOutput | midiHandler => exact AllLed.nil _
    | _ => cases hb

lemma solid_of_mem_declarations (hd : IsDescription d) (hlabels : Description.IsUnlabelled d)
    (hdrivers : HasPlainDrivers d) :
    ∀ block ∈ Description.blocksOf d .declaration fun _ => true, ∀ line ∈ block, Solid line := by
  intro block hblock line hline
  obtain ⟨k, -, rfl⟩ := List.mem_map.1 (List.mem_filter.1 hblock).1
  exact Kind.solid_of_allLed (linesOf_declaration_led hd hlabels hdrivers k) line hline

/-- The declarations of the struct declare what the kinds introduce, in their order. -/
theorem filterMap_declarations (hd : IsDescription d) (hlabels : Description.IsUnlabelled d)
    (hdrivers : HasPlainDrivers d) :
    (declarationLines (textsOf d .declaration)).filterMap declaredName? =
      Kind.all.flatMap fun k => k.memberNames (Description.slots d k) := by
  have hblocks : ((Description.blocksOf d .declaration fun _ => true).flatMap
      fun block => (block.map (indent ++ ·)).filterMap declaredName?) =
      Kind.all.flatMap fun k => k.memberNames (Description.slots d k) := by
    calc
      _ = (Description.blocksOf d .declaration fun _ => true).flatMap
            (List.filterMap memberName?) :=
          List.flatMap_congr fun block _ => List.filterMap_map
      _ = Kind.all.flatMap fun k =>
            (Description.linesOf d .declaration k).filterMap memberName? := by
          rw [Description.flatMap_blocksOf rfl]
          exact List.flatMap_congr fun k _ => if_pos rfl
      _ = _ := List.flatMap_congr fun k _ => filterMap_linesOf hd hlabels k
  have hregion : (region (textsOf d .declaration) indent).filterMap declaredName? =
      Kind.all.flatMap fun k => k.memberNames (Description.slots d k) := by
    rw [textsOf, region_eq isIndent_indent (solid_of_mem_declarations hd hlabels hdrivers),
      filterMap_intercalate (by decide), List.flatMap_map]
    exact hblocks
  rw [declarationLines]
  split_ifs with hempty
  · rw [← hregion, List.isEmpty_iff.1 hempty]
    rfl
  · have hlast : DeclareNothing [""] := by decide
    rw [List.filterMap_append, hlast.filterMap, List.append_nil, hregion]

/-! ### The whole header -/

lemma filterMap_dutyRoutine (d : Value) {duty : Duty} (hduty : duty ∈ duties) :
    (dutyRoutine d duty).filterMap declaredName? = [duty.routine] := by
  have hsignatures : ∀ duty ∈ duties,
      declaredName? (indent ++ duty.signature) = some duty.routine := by decide
  exact filterMap_routine (hsignatures duty hduty) (declareNothing_region _)

/-- What the lines of a header without labels declare. -/
theorem filterMap_linesOf_header (hd : IsDescription d) (hlabels : Description.IsUnlabelled d)
    (hdrivers : HasPlainDrivers d) (structName : String) :
    (linesOf d structName).filterMap declaredName? = memberNames d := by
  have hopening : (opening (textsOf d .inclusion)).filterMap declaredName? = [board] := by
    have hclosed : ∀ needs : Bool, (opening
        (if needs then [Display.familyHeader] else [])).filterMap declaredName? = [board] := by
      decide
    obtain ⟨needs, hneeds⟩ := textsOf_inclusion hd
    rw [hneeds]
    exact hclosed needs
  have hbringUp : declaredName? (indent ++ bringUpSignature) = some bringUpRoutine := by decide
  have hcontrols : (controlDuties.flatMap (dutyRoutine d)).filterMap declaredName? =
      controlDuties.map Duty.routine := by
    rw [List.filterMap_flatMap, List.map_eq_flatMap]
    exact List.flatMap_congr fun duty hduty =>
      filterMap_dutyRoutine d (List.mem_append_left _ hduty)
  have hall : allControlsLines.filterMap declaredName? = [allControlsRoutine] := by decide
  have hlast : DeclareNothing ["\x7d " ++ structName ++ ";"] := by
    refine List.forall_mem_singleton.2 ?_
    rw [declaredName?, Option.bind_eq_none_iff]
    intro s hs
    obtain ⟨hline, -⟩ := memberText?_eq_some_iff.1 hs
    exact absurd (congrArg List.head? hline) (by simp [String.toList_append, indent])
  simp only [linesOf, List.filterMap_append]
  rw [hopening, filterMap_declarations hd hlabels hdrivers,
    filterMap_routine hbringUp (declareNothing_bringUpBody _), hcontrols, hall,
    filterMap_dutyRoutine d (by decide), hlast.filterMap]
  simp [memberNames, fixedMembers]

/-- Whether the texts that make up the driver types of a description are one line each. -/
def DriversAreOneLine (d : Value) : Prop :=
  ∀ e ∈ Description.listed d "oled_displays", ∀ key ∈ Display.driverKeys, ∀ s,
    e.get key = .ok (.str s) → OneLine s

lemma hasPlainDrivers_withoutLabels (hd : IsDescription d) (hdrivers : DriversAreOneLine d) :
    HasPlainDrivers (Description.withoutLabels d) := by
  intro e he
  rw [Description.slots_withoutLabels] at he
  obtain ⟨e, hslot, rfl⟩ := List.mem_map.1 he
  refine Display.oneLine_driverOf fun key hkey => ?_
  have hunlabelled : ∀ key ∈ Display.driverKeys, key ≠ "labels" := by decide
  have htext : ∀ key ∈ Display.driverKeys, textField key ∈ display.fields := by
    simp [Display.driverKeys, display, entry]
  have hlisted : e ∈ Description.listed d "oled_displays" := by
    obtain ⟨key, hkey, he⟩ := Description.mem_slots hslot
    rwa [List.mem_singleton.1 hkey] at he
  obtain ⟨fields, rfl, hfields⟩ := Kind.display_fits_of_mem_slots hd hslot
  rw [fieldOf_unlabelled _ (hunlabelled key hkey), fieldOf]
  cases hlookup : fields.lookup key with
  | none => decide
  | some w =>
    obtain ⟨s, rfl⟩ := hfields _ (htext key hkey) w hlookup
    refine hdrivers _ hlisted key hkey s ?_
    rw [Value.get_obj, hlookup]
    rfl

/-- The members that are listed for a description are those that the struct of its header declares,
each of them once. Labels aside, that is: these become members as well, but are not listed. -/
theorem declaredNames_source {v d : Value} (hd : normalizeHardware v = .ok d)
    (hdrivers : DriversAreOneLine d) {structName : String} (hname : OneLine structName) :
    ∃ names text, members d = .ok names ∧
      members (Description.withoutLabels d) = .ok names ∧
      source (Description.withoutLabels d) structName = .ok text ∧
      declaredNames text = names ∧ names.Nodup := by
  have hdescription := isDescription_of_normalize hd
  have hwithout := Description.isDescription_withoutLabels hdescription
  obtain ⟨text, htext, hlines⟩ := exists_source hwithout structName hname
  refine ⟨memberNames d, text, members_eq hdescription, ?_, htext, ?_, nodup_memberNames d⟩
  · rw [members_eq hwithout, memberNames_withoutLabels]
  · rw [declaredNames, hlines, filterMap_linesOf_header hwithout
      (Description.isUnlabelled_withoutLabels d)
      (hasPlainDrivers_withoutLabels hdescription hdrivers), memberNames_withoutLabels]

/-- A display the dimensions of which are given with its transport. -/
def narrowDisplay (driver : String) : Value :=
  .obj [("driver", .str driver), ("transport", .str "I2c128x64"), ("dimensions", .str "")]

/-- Two displays, and a switch the pin of which is no number. -/
def switchPanel : Value := .obj [
  ("oled_displays", .arr (["SSD130x", "SH1106"].map narrowDisplay)),
  ("switches", .arr [.obj [("labels", .arr [.str "gate"]), ("pin", .str "1\n    int x;")]])]

/-- The members of its struct. -/
def switchNames : List String :=
  ["seed", "display", "display1", "switches", "Init", "ProcessAnalogControls",
    "ProcessDigitalControls", "ProcessAllControls", "UpdateLeds"]

/-- They are listed, and read back from its header. -/
theorem declaredNames_source_switch :
    (normalizeHardware switchPanel = .ok switchPanel ∧ DriversAreOneLine switchPanel ∧
      OneLine defaultName) ∧
    ∃ text, members switchPanel = .ok switchNames ∧
      members (Description.withoutLabels switchPanel) = .ok switchNames ∧
      source (Description.withoutLabels switchPanel) defaultName = .ok text ∧
      declaredNames text = switchNames ∧ switchNames.Nodup := by
  have hd : normalizeHardware switchPanel = .ok switchPanel := rfl
  have hdrivers : DriversAreOneLine switchPanel := by
    intro e he key hkey s hs
    have he : e ∈ ["SSD130x", "SH1106"].map narrowDisplay := he
    obtain ⟨driver, hdriver, rfl⟩ := List.mem_map.1 he
    simp only [Display.driverKeys, List.mem_cons, List.not_mem_nil, or_false] at hdriver hkey
    rcases hdriver with rfl | rfl <;> rcases hkey with rfl | rfl | rfl <;> cases hs <;> decide
  have hname : OneLine defaultName := by decide
  obtain ⟨names, text, hmembers, hwithout, htext, hnames, hnodup⟩ :=
    declaredNames_source hd hdrivers hname
  have hlisted : members switchPanel = .ok switchNames := by decide +kernel
  obtain rfl : switchNames = names := Except.ok.inj (hlisted.symm.trans hmembers)
  exact ⟨⟨hd, hdrivers, hname⟩, text, hlisted, hwithout, htext, hnames, hnodup⟩

end Header

end ControlSurface
