import ControlSurface.Proofs.Header.Region

/-!
# Headers put together from fragments

Whatever the fragments of a header are, its lines are those of a few regions. If the lines of every
fragment open with words of the kinds, then no fragment can be taken for a signature or for the
brace that closes a routine, so each routine is found again by its signature.
-/

namespace ControlSurface

open Text

namespace Header

/-- The signature of the routine that brings everything up. -/
def bringUpSignature : String := s!"void {bringUpRoutine}(bool boost)"

/-- The signature of the routine of a duty. -/
def Duty.signature (duty : Duty) : String := s!"void {duty.routine}()"

/-- The duties in the order of their routines. -/
def duties : List Duty := controlDuties ++ [lightDuty]

/-! ### Words that open no line -/

/-- Whether no line opens with a word. -/
def Lacks (word : String) (lines : List String) : Prop := ∀ line ∈ lines, opens word line = false

instance (word : String) (lines : List String) : Decidable (Lacks word lines) :=
  inferInstanceAs (Decidable (∀ line ∈ lines, opens word line = false))

/-- Whether a word opens no line that any kind contributes to a phase. -/
def IsForeign (word : String) (p : Phase) : Prop :=
  word ≠ "" ∧ ∀ k : Kind, ∀ lead ∈ k.leads p, isFlush lead = true ∧ agree word lead = false

instance (word : String) (p : Phase) : Decidable (IsForeign word p) :=
  inferInstanceAs (Decidable (word ≠ "" ∧ ∀ k : Kind, ∀ lead ∈ k.leads p,
    isFlush lead = true ∧ agree word lead = false))

section Words

variable {word : String} {lines more : List String}

lemma Lacks.append (h : Lacks word lines) (h' : Lacks word more) : Lacks word (lines ++ more) := by
  intro line hline
  rcases List.mem_append.1 hline with hline | hline
  · exact h line hline
  · exact h' line hline

lemma Lacks.not_mem (h : Lacks word lines) (hflush : isFlush word = true) :
    indent ++ word ∉ lines := by
  intro hmem
  have hopens : opens word (indent ++ word) = true := by
    rw [opens_indent isIndent_indent]
    exact Leads.opens List.prefix_rfl hflush
  rw [h _ hmem] at hopens
  exact Bool.false_ne_true hopens

lemma lacks_of_filter (h : lines.filter (opens word) = []) : Lacks word lines :=
  fun line hline => Bool.eq_false_iff.2 (List.filter_eq_nil_iff.1 h line hline)

lemma Lacks.filter (h : Lacks word lines) : lines.filter (opens word) = [] :=
  List.filter_eq_nil_iff.2 fun line hline => Bool.eq_false_iff.1 (h line hline)

lemma Lacks.of_subset (h : Lacks word more) (hsub : lines ⊆ more) : Lacks word lines :=
  fun line hline => h line (hsub hline)

/-- The signatures of all routines, and the brace that closes them, are no words of any kind. -/
lemma isForeign_signatures :
    ∀ word ∈ "\x7d" :: bringUpSignature :: duties.map Duty.signature, ∀ p, IsForeign word p := by
  decide

lemma lacks_routine {signature : String} {body : List String}
    (hsignature : opens word (indent ++ signature) = false)
    (hframe : Lacks word [indent ++ "\x7b", indent ++ "\x7d", ""]) (hbody : Lacks word body) :
    Lacks word (routine signature body) := by
  have hbrace : opens word (indent ++ "\x7b") = false := hframe _ (List.mem_cons_self ..)
  refine Lacks.append (Lacks.append ?_ hbody) (hframe.of_subset (List.subset_cons_self ..))
  intro line hline
  simp only [List.mem_cons, List.not_mem_nil, or_false] at hline
  rcases hline with rfl | rfl
  · exact hsignature
  · exact hbrace

end Words

/-! ### Fragments of kinds -/

/-- Whether there are lines, all of which open with the words that some kind has for a phase. -/
structure IsContributed (p : Phase) (block : List String) : Prop where
  nonempty : block ≠ []
  led : ∃ k : Kind, AllLed (k.leads p) block

lemma IsContributed.solid {p : Phase} {block : List String} (h : IsContributed p block) :
    ∀ line ∈ block, Solid line := by
  obtain ⟨k, hled⟩ := h.led
  exact Kind.solid_of_allLed hled

/-- Whether fragments are made of lines that open with the words of the kinds for a phase. -/
def AreContributed (p : Phase) (fragments : List String) : Prop :=
  ∃ blocks : List (List String), fragments = blocks.map fragmentText ∧
    ∀ block ∈ blocks, IsContributed p block

namespace AreContributed

variable {p : Phase} {fragments : List String} {word : String} (h : AreContributed p fragments)
  (hword : IsForeign word p)
include h hword

lemma lacks_region {indent : String} (hindent : IsIndent indent) :
    Lacks word (region fragments indent) := by
  obtain ⟨blocks, rfl, hblocks⟩ := h
  apply lacks_of_filter
  rw [filter_region hindent hword.1 fun block hblock => (hblocks block hblock).solid,
    List.map_eq_nil_iff, List.flatMap_eq_nil_iff]
  intro block hblock
  obtain ⟨k, hled⟩ := (hblocks block hblock).led
  exact hled.filter_opens (hword.2 k)

lemma lacks_declarationLines : Lacks word (declarationLines fragments) := by
  rw [declarationLines]
  split_ifs
  · exact fun line hline => absurd hline List.not_mem_nil
  · apply (h.lacks_region hword isIndent_indent).append
    intro line hline
    rw [List.mem_singleton.1 hline]
    exact opens_empty hword.1

lemma lacks_bringUpBody (hframe : Lacks word (bringUpBody [])) :
    Lacks word (bringUpBody fragments) := by
  rw [bringUpBody] at hframe ⊢
  refine Lacks.append (hframe.of_subset (List.subset_append_left ..)) ?_
  split_ifs
  · exact fun line hline => absurd hline List.not_mem_nil
  · exact List.forall_mem_cons.2
      ⟨opens_empty hword.1, h.lacks_region hword isIndent_deepIndent⟩

end AreContributed

section Blocks

variable {lines : Kind → List String}

lemma areContributed_blocks {p : Phase} (h : ∀ k, AllLed (k.leads p) (lines k))
    (selected : Kind → Bool) :
    AreContributed p ((Description.blocks lines selected).map fragmentText) := by
  refine ⟨_, rfl, fun block hblock => ?_⟩
  obtain ⟨hblock, hnonempty⟩ := List.mem_filter.1 hblock
  obtain ⟨k, -, rfl⟩ := List.mem_map.1 hblock
  refine ⟨by simpa using hnonempty, k, ?_⟩
  split_ifs
  · exact h k
  · exact AllLed.nil _

/-- If only displays bring in a header, then it is the only fragment. -/
lemma map_blocks_inclusion {needs : Bool} (h : ∀ k, lines k =
      if k = .oledDisplay then if needs then [Display.familyHeader] else [] else []) :
    (Description.blocks lines fun _ => true).map fragmentText =
      if needs then [Display.familyHeader] else [] := by
  have hblocks : Description.blocks lines (fun _ => true) =
      if needs then [[Display.familyHeader]] else [] := by
    cases needs <;> simp [Description.blocks, Kind.all, h]
  rw [hblocks]
  cases needs with
  | false => rfl
  | true => simp [fragmentText]

end Blocks

/-! ### Parts -/

/-- The fragments of a header by the region that they stand in. -/
structure Parts where
  inclusions : List String
  declarations : List String
  initializations : List String
  serviced : Duty → List String

namespace Parts

/-- The parts of a header from the fragments of every phase, and those that each duty services. -/
def of (fragments : Phase → List String) (serviced : Duty → List String) : Parts where
  inclusions := fragments .inclusion
  declarations := fragments .declaration
  initializations := fragments .initialization
  serviced := serviced

/-- The statements of a routine that is called in every tick. -/
def body (parts : Parts) (duty : Duty) : List String := region (parts.serviced duty) deepIndent

/-- The lines of the header, the last one left aside. -/
def lines (parts : Parts) (structName : String) : List String :=
  opening parts.inclusions ++ declarationLines parts.declarations ++
    routine bringUpSignature (bringUpBody parts.initializations) ++
    controlDuties.flatMap (fun duty => routine duty.signature (parts.body duty)) ++
    allControlsLines ++ routine lightDuty.signature (parts.body lightDuty) ++
    ["\x7d " ++ structName ++ ";"]

/-- Whether the parts are the fragments of a description. -/
structure IsOf (parts : Parts) (d : Value) : Prop where
  inclusions : phaseFragments d .inclusion = .ok parts.inclusions
  declarations : phaseFragments d .declaration = .ok parts.declarations
  initializations : phaseFragments d .initialization = .ok parts.initializations
  serviced : ∀ duty, dutyFragments d duty = .ok (parts.serviced duty)

/-- Whether the parts of a header are made by the kinds. Only displays bring in a header, and one at
most. -/
structure IsSound (parts : Parts) : Prop where
  inclusions : ∃ needs : Bool, parts.inclusions = if needs then [Display.familyHeader] else []
  declarations : AreContributed .declaration parts.declarations
  initializations : AreContributed .initialization parts.initializations
  serviced : ∀ duty, AreContributed .processing (parts.serviced duty)

variable {parts : Parts}

/-! ### Lines -/

lemma IsOf.lines_eq {d : Value} (h : parts.IsOf (d.orElse (.obj []))) (structName : String) :
    Header.lines d structName = .ok (parts.lines structName ++ [""]) := by
  have hduty (duty : Duty) : dutyLines (d.orElse (.obj [])) duty =
      .ok (routine duty.signature (parts.body duty)) := by
    rw [dutyLines, h.serviced]
    rfl
  have hcontrols : controlDuties.mapM (dutyLines (d.orElse (.obj []))) =
      .ok (controlDuties.map fun duty => routine duty.signature (parts.body duty)) :=
    mapM_eq_ok fun duty _ => hduty duty
  rw [Header.lines]
  simp only [h.inclusions, h.declarations, h.initializations, hcontrols, hduty]
  simp only [lines, List.append_assoc, List.flatMap, List.singleton_append]
  rfl

/-- The header of a description is put together from its parts. -/
theorem IsOf.source_eq {d : Value} (h : parts.IsOf (d.orElse (.obj []))) (structName : String) :
    source d structName = .ok ("\n".intercalate (parts.lines structName ++ [""])) := by
  rw [source, h.lines_eq]
  rfl

lemma oneLine_opening
    (h : ∃ needs : Bool, parts.inclusions = if needs then [Display.familyHeader] else []) :
    ∀ line ∈ opening parts.inclusions, OneLine line := by
  have hclosed : ∀ needs : Bool,
      ∀ line ∈ opening (if needs then [Display.familyHeader] else []), OneLine line := by
    decide
  obtain ⟨needs, hneeds⟩ := h
  rw [hneeds]
  exact hclosed needs

lemma oneLine_routine (parts : Parts) {duty : Duty} (hduty : duty ∈ duties) :
    ∀ line ∈ routine duty.signature (parts.body duty), OneLine line := by
  have hframe : ∀ duty ∈ duties, ∀ line ∈ [indent ++ duty.signature, indent ++ "\x7b"],
      OneLine line := by decide
  rw [routine]
  simp only [List.forall_mem_append]
  exact ⟨⟨hframe duty hduty, fun _ => oneLine_of_mem_region⟩, by decide⟩

/-- Regions are made of lines, whatever the fragments hold. -/
lemma oneLine_lines
    (h : ∃ needs : Bool, parts.inclusions = if needs then [Display.familyHeader] else [])
    {structName : String} (hname : OneLine structName) :
    ∀ line ∈ parts.lines structName, OneLine line := by
  have hdeclarations : ∀ line ∈ declarationLines parts.declarations, OneLine line := by
    rw [declarationLines]
    split_ifs
    · exact fun _ hline => absurd hline List.not_mem_nil
    · exact List.forall_mem_append.2 ⟨fun _ => oneLine_of_mem_region, by decide⟩
  have hbringUp : ∀ line ∈ bringUpBody parts.initializations, OneLine line := by
    rw [bringUpBody]
    refine List.forall_mem_append.2 ⟨by decide, ?_⟩
    split_ifs
    · exact fun _ hline => absurd hline List.not_mem_nil
    · exact List.forall_mem_cons.2 ⟨by decide, fun _ => oneLine_of_mem_region⟩
  have hcontrols : ∀ line ∈ controlDuties.flatMap (fun duty =>
      routine duty.signature (parts.body duty)), OneLine line := by
    intro line hline
    obtain ⟨duty, hduty, hline⟩ := List.mem_flatMap.1 hline
    exact parts.oneLine_routine (List.mem_append_left _ hduty) line hline
  have hlights : ∀ line ∈ routine lightDuty.signature (parts.body lightDuty), OneLine line :=
    parts.oneLine_routine (by decide)
  have hlast : ∀ line ∈ ["\x7d " ++ structName ++ ";"], OneLine line := by
    intro line hline
    rw [List.mem_singleton.1 hline]
    exact (OneLine.append (by decide) hname).append (by decide)
  have hroutine : ∀ line ∈ routine bringUpSignature (bringUpBody parts.initializations),
      OneLine line := by
    rw [routine]
    simp only [List.forall_mem_append]
    exact ⟨⟨by decide, hbringUp⟩, by decide⟩
  simp only [lines, List.forall_mem_append]
  exact ⟨⟨⟨⟨⟨⟨oneLine_opening h, hdeclarations⟩, hroutine⟩, hcontrols⟩, by decide⟩, hlights⟩, hlast⟩

/-! ### Routines -/

section Routines

variable (h : parts.IsSound)
include h

lemma lacks_opening {word : String} (hword : ∀ needs : Bool,
    Lacks word (opening (if needs then [Display.familyHeader] else []))) :
    Lacks word (opening parts.inclusions) := by
  obtain ⟨needs, hneeds⟩ := h.inclusions
  rw [hneeds]
  exact hword needs

/-- The statements of the routine that brings everything up. -/
theorem bodyOf_bringUp (structName : String) :
    bodyOf bringUpSignature (parts.lines structName) = bringUpBody parts.initializations := by
  have hsignature : ∀ p, IsForeign bringUpSignature p := isForeign_signatures _ (by decide)
  have hbrace : ∀ p, IsForeign "\x7d" p := isForeign_signatures _ (List.mem_cons_self ..)
  have hfront : Lacks bringUpSignature
      (opening parts.inclusions ++ declarationLines parts.declarations) :=
    (lacks_opening h (by decide)).append (h.declarations.lacks_declarationLines (hsignature _))
  have hbody : Lacks "\x7d" (bringUpBody parts.initializations) :=
    h.initializations.lacks_bringUpBody (hbrace _) (by decide)
  simp only [lines, List.append_assoc]
  rw [← List.append_assoc, ← List.append_assoc]
  exact bodyOf_append (hfront.not_mem (by decide)) (hbody.not_mem (by decide))

/-- Before the routines of the duties stands no signature of theirs. -/
lemma lacks_signature {duty : Duty} (hduty : duty ∈ duties) : Lacks duty.signature
    (opening parts.inclusions ++ declarationLines parts.declarations ++
      routine bringUpSignature (bringUpBody parts.initializations)) := by
  have hsignature : ∀ p, IsForeign duty.signature p :=
    isForeign_signatures _ (List.mem_cons_of_mem _ (List.mem_cons_of_mem _
      (List.mem_map_of_mem hduty)))
  have hframe : ∀ duty ∈ duties,
      (∀ needs : Bool, Lacks duty.signature
        (opening (if needs then [Display.familyHeader] else []))) ∧
      Lacks duty.signature (bringUpBody []) ∧
      opens duty.signature (indent ++ bringUpSignature) = false ∧
      Lacks duty.signature [indent ++ "\x7b", indent ++ "\x7d", ""] := by
    decide
  obtain ⟨hopening, hbody, hbringUp, hbraces⟩ := hframe duty hduty
  exact ((lacks_opening h hopening).append
    (h.declarations.lacks_declarationLines (hsignature _))).append
      (lacks_routine hbringUp hbraces (h.initializations.lacks_bringUpBody (hsignature _) hbody))

/-- Nor in the routines of other duties. -/
lemma lacks_signature_routine {duty other : Duty} (hduty : duty ∈ duties) (hother : other ∈ duties)
    (hne : duty ≠ other) :
    Lacks duty.signature (routine other.signature (parts.body other)) := by
  have hsignature : IsForeign duty.signature .processing :=
    isForeign_signatures _ (List.mem_cons_of_mem _ (List.mem_cons_of_mem _
      (List.mem_map_of_mem hduty))) _
  have hframe : ∀ duty ∈ duties, ∀ other ∈ duties, duty ≠ other →
      opens duty.signature (indent ++ other.signature) = false ∧
      Lacks duty.signature [indent ++ "\x7b", indent ++ "\x7d", ""] := by
    decide
  obtain ⟨hsignatures, hbraces⟩ := hframe duty hduty other hother hne
  exact lacks_routine hsignatures hbraces
    ((h.serviced other).lacks_region hsignature isIndent_deepIndent)

omit h in
lemma duties_eq (parts : Parts) : ∃ analog digital, duties = [analog, digital, lightDuty] ∧
    analog ≠ digital ∧ analog ≠ lightDuty ∧ digital ≠ lightDuty ∧
    ∀ structName, parts.lines structName =
      opening parts.inclusions ++ declarationLines parts.declarations ++
        routine bringUpSignature (bringUpBody parts.initializations) ++
        routine analog.signature (parts.body analog) ++
        routine digital.signature (parts.body digital) ++ allControlsLines ++
        routine lightDuty.signature (parts.body lightDuty) ++ ["\x7d " ++ structName ++ ";"] := by
  obtain ⟨analog, digital, hcontrols, hapart⟩ : ∃ analog digital,
      controlDuties = [analog, digital] ∧ analog ≠ digital ∧ analog ≠ lightDuty ∧
        digital ≠ lightDuty := ⟨_, _, rfl, by decide, by decide, by decide⟩
  have hduties : duties = [analog, digital, lightDuty] := by
    rw [duties, hcontrols]
    rfl
  refine ⟨analog, digital, hduties, hapart.1, hapart.2.1, hapart.2.2, fun structName => ?_⟩
  simp [lines, hcontrols]

/-- The statements of a routine are found where its signature comes first. -/
lemma bodyOf_duty_of_lacks {duty : Duty} (hduty : duty ∈ duties) {lines front : List String}
    (back : List String) (hfront : Lacks duty.signature front)
    (hlines : lines = front ++ routine duty.signature (parts.body duty) ++ back) :
    bodyOf duty.signature lines = parts.body duty := by
  have hflush : ∀ duty ∈ duties, isFlush duty.signature = true := by decide
  have hbrace : IsForeign "\x7d" .processing := isForeign_signatures _ (List.mem_cons_self ..) _
  have hbody : indent ++ "\x7d" ∉ parts.body duty :=
    ((h.serviced duty).lacks_region hbrace isIndent_deepIndent).not_mem (by decide)
  rw [hlines]
  exact bodyOf_append (hfront.not_mem (hflush duty hduty)) hbody

/-- The statements of a routine that is called in every tick. -/
theorem bodyOf_duty {duty : Duty} (hduty : duty ∈ duties) (structName : String) :
    bodyOf duty.signature (parts.lines structName) = parts.body duty := by
  obtain ⟨analog, digital, hduties, hdigital, hanalogLight, hdigitalLight, hlines⟩ :=
    duties_eq parts
  obtain ⟨hanalogMem, hdigitalMem⟩ : analog ∈ duties ∧ digital ∈ duties := by simp [hduties]
  have hbefore := lacks_signature h hduty
  have hother (other : Duty) (hother : other ∈ duties) (hne : duty ≠ other) :=
    lacks_signature_routine h hduty hother hne
  have hall : ∀ duty ∈ duties, Lacks duty.signature allControlsLines := by decide
  have hcases : duty = analog ∨ duty = digital ∨ duty = lightDuty := by
    simpa [hduties] using hduty
  rcases hcases with rfl | rfl | rfl
  · refine bodyOf_duty_of_lacks h hduty (routine digital.signature (parts.body digital) ++
      allControlsLines ++ routine lightDuty.signature (parts.body lightDuty) ++
      ["\x7d " ++ structName ++ ";"]) hbefore ?_
    simp only [hlines, List.append_assoc]
  · have hfront := hbefore.append (hother analog hanalogMem hdigital.symm)
    refine bodyOf_duty_of_lacks h hduty (allControlsLines ++
      routine lightDuty.signature (parts.body lightDuty) ++ ["\x7d " ++ structName ++ ";"])
      hfront ?_
    simp only [hlines, List.append_assoc]
  · have hcontrols := (hbefore.append (hother analog hanalogMem hanalogLight.symm)).append
      (hother digital hdigitalMem hdigitalLight.symm)
    refine bodyOf_duty_of_lacks h hduty ["\x7d " ++ structName ++ ";"]
      (hcontrols.append (hall _ hduty)) ?_
    simp only [hlines, List.append_assoc]

end Routines

end Parts

end Header

end ControlSurface
