import ControlSurface.Proofs.Header.Parts
import ControlSurface.Proofs.Members

/-!
# Layout of the header

The header of a normalized description always comes out. Its lines are known region by region, and
if the description has no line boundaries, so is what opens with a word.
-/

namespace ControlSurface

open Schema Text

namespace Header

variable {d : Value} {structName : String}

/-- The fragments of all kinds for a phase. -/
def textsOf (d : Value) (p : Phase) : List String :=
  (Description.blocksOf d p fun _ => true).map fragmentText

/-- The statements of a routine that is called in every tick. -/
def dutyBody (d : Value) (duty : Duty) : List String :=
  region ((Description.blocksOf d .processing fun k => duty.kinds.contains k).map fragmentText)
    deepIndent

/-- A routine that is called in every tick. -/
def dutyRoutine (d : Value) (duty : Duty) : List String :=
  routine duty.signature (dutyBody d duty)

/-- The lines of the header. -/
def linesOf (d : Value) (structName : String) : List String :=
  opening (textsOf d .inclusion) ++ declarationLines (textsOf d .declaration) ++
    routine bringUpSignature (bringUpBody (textsOf d .initialization)) ++
    controlDuties.flatMap (dutyRoutine d) ++ allControlsLines ++ dutyRoutine d lightDuty ++
    ["\x7d " ++ structName ++ ";"]

/-- The fragments of a normalized description. -/
def partsOf (d : Value) : Parts :=
  .of (textsOf d) fun duty =>
    (Description.blocksOf d .processing fun k => duty.kinds.contains k).map fragmentText

lemma linesOf_eq (d : Value) (structName : String) :
    linesOf d structName = (partsOf d).lines structName := rfl

lemma isOf_partsOf (hd : IsDescription d) : (partsOf d).IsOf d where
  inclusions := Description.fragments_eq hd .inclusion _
  declarations := Description.fragments_eq hd .declaration _
  initializations := Description.fragments_eq hd .initialization _
  serviced _ := Description.fragments_eq hd .processing _

theorem source_eq (hd : IsDescription d) (structName : String) :
    source d structName = .ok ("\n".intercalate (linesOf d structName ++ [""])) := by
  have hparts : (partsOf d).IsOf (d.orElse (.obj [])) := by
    rw [orElse_of_isDescription hd]
    exact isOf_partsOf hd
  exact hparts.source_eq structName

/-! ### What opens with a word -/

variable {word : String}

section Region

variable (hd : IsDescription d) (hone : d.IsOneLine)
include hd hone

lemma filter_blocks {indent : String} (hindent : IsIndent indent) (hword : word ≠ "") (p : Phase)
    (selected : Kind → Bool) :
    (region ((Description.blocksOf d p selected).map fragmentText) indent).filter (opens word) =
      (Description.opening d p selected word).map (indent ++ ·) := by
  rw [filter_region hindent hword (Description.solid_of_mem_blocksOf hd hone),
    Description.flatMap_filter_blocksOf]

lemma filter_declarationLines (hword : word ≠ "") :
    (declarationLines (textsOf d .declaration)).filter (opens word) =
      (Description.opening d .declaration (fun _ => true) word).map (indent ++ ·) := by
  rw [← filter_blocks hd hone isIndent_indent hword, declarationLines, textsOf]
  split_ifs with hempty
  · rw [List.isEmpty_iff.1 hempty]
    rfl
  · rw [List.filter_append, List.filter_singleton, opens_empty hword]
    simp

lemma filter_bringUpBody (hword : word ≠ "") (hframe : Lacks word (bringUpBody [])) :
    (bringUpBody (textsOf d .initialization)).filter (opens word) =
      (Description.opening d .initialization (fun _ => true) word).map (deepIndent ++ ·) := by
  rw [← filter_blocks hd hone isIndent_deepIndent hword, bringUpBody, List.filter_append, textsOf]
  have hstart : Lacks word [deepIndent ++ s!"{board}.Configure();",
      deepIndent ++ s!"{board}.Init(boost);"] := by
    rwa [bringUpBody, if_pos List.isEmpty_nil, List.append_nil] at hframe
  rw [hstart.filter, List.nil_append]
  split_ifs with hempty
  · rw [List.isEmpty_iff.1 hempty]
    rfl
  · rw [filter_opens_cons_of_eq_false (opens_empty hword)]

/-- The lines that bring up a kind stand together. -/
lemma infix_bringUpBody (k : Kind) :
    (Description.linesOf d .initialization k).map (deepIndent ++ ·) <:+:
      bringUpBody (textsOf d .initialization) := by
  by_cases hlines : Description.linesOf d .initialization k = []
  · rw [hlines]
    exact (List.nil_prefix).isInfix
  have hblock : Description.linesOf d .initialization k ∈
      Description.blocksOf d .initialization fun _ => true := by
    refine List.mem_filter.2 ⟨List.mem_map.2 ⟨k, Kind.mem_all k, if_pos rfl⟩, ?_⟩
    rwa [Bool.not_eq_true', List.isEmpty_eq_false_iff]
  have hregion : (Description.linesOf d .initialization k).map (deepIndent ++ ·) <:+:
      region (textsOf d .initialization) deepIndent := by
    rw [textsOf, region_eq isIndent_deepIndent (Description.solid_of_mem_blocksOf hd hone)]
    exact infix_intercalate (List.mem_map_of_mem hblock)
  have hnonempty : ¬(textsOf d .initialization).isEmpty := by
    rw [textsOf, List.isEmpty_iff, List.map_eq_nil_iff]
    exact List.ne_nil_of_mem hblock
  rw [bringUpBody, if_neg hnonempty]
  exact hregion.trans ((List.suffix_cons _ _).isInfix.trans (List.suffix_append _ _).isInfix)

lemma filter_dutyBody (hword : word ≠ "") (duty : Duty) :
    (dutyBody d duty).filter (opens word) =
      (Description.opening d .processing (fun k => duty.kinds.contains k) word).map
        (deepIndent ++ ·) := by
  rw [← filter_blocks hd hone isIndent_deepIndent hword, dutyBody]

lemma areContributed_blocksOf (p : Phase) (selected : Kind → Bool) :
    AreContributed p ((Description.blocksOf d p selected).map fragmentText) :=
  areContributed_blocks (fun k => Description.linesOf_led hd hone k p) selected

/-- A word that opens no line of any kind. -/
lemma lacks_region {indent : String} (hindent : IsIndent indent) {p : Phase}
    (hword : IsForeign word p) (selected : Kind → Bool) :
    Lacks word (region ((Description.blocksOf d p selected).map fragmentText) indent) :=
  (areContributed_blocksOf hd hone p selected).lacks_region hword hindent

end Region

/-! ### The whole header -/

/-- Displays bring in one header at most. -/
lemma textsOf_inclusion (hd : IsDescription d) : ∃ needs : Bool,
    textsOf d .inclusion = if needs then [Display.familyHeader] else [] := by
  obtain ⟨needs, hlines⟩ := Description.linesOf_inclusion hd
  exact ⟨needs, map_blocks_inclusion hlines⟩

/-- The lines of a header that do not come from its description, the last one left aside. -/
def frame : List String :=
  opening [Display.familyHeader] ++ bringUpBody [] ++ allControlsLines ++
    (bringUpSignature :: duties.map Duty.signature).map (indent ++ ·) ++
    ["", indent ++ "\x7b", indent ++ "\x7d"]

lemma opening_subset_frame (hd : IsDescription d) : opening (textsOf d .inclusion) ⊆ frame := by
  have hsub : ∀ needs : Bool,
      opening (if needs then [Display.familyHeader] else []) ⊆ frame := by decide
  obtain ⟨needs, hneeds⟩ := textsOf_inclusion hd
  rw [hneeds]
  exact hsub needs

lemma filter_routine {signature : String} (hframe : Lacks word frame)
    (hsignature : indent ++ signature ∈ frame) (body : List String) :
    (routine signature body).filter (opens word) = body.filter (opens word) := by
  have hbegin : Lacks word [indent ++ signature, indent ++ "\x7b"] := by
    refine hframe.of_subset (List.cons_subset.2 ⟨hsignature, ?_⟩)
    decide
  have hend : Lacks word [indent ++ "\x7d", ""] := hframe.of_subset (by decide)
  rw [routine, List.filter_append, List.filter_append, hbegin.filter, hend.filter, List.nil_append,
    List.append_nil]

/-- What opens with a word that the frame of the header does not use. -/
theorem filter_linesOf (hd : IsDescription d) (hone : d.IsOneLine) (hword : word ≠ "")
    (hframe : Lacks word frame) (hclose : agree word "\x7d " = false) (structName : String) :
    (linesOf d structName).filter (opens word) =
      (Description.opening d .declaration (fun _ => true) word).map (indent ++ ·) ++
      (Description.opening d .initialization (fun _ => true) word).map (deepIndent ++ ·) ++
      duties.flatMap fun duty =>
        (Description.opening d .processing (fun k => duty.kinds.contains k) word).map
          (deepIndent ++ ·) := by
  have hlast : Lacks word ["\x7d " ++ structName ++ ";"] := by
    rintro _ hline
    rw [List.mem_singleton.1 hline]
    exact ((leads_append "\x7d " structName).append ";").opens_eq_false (by decide) hclose
  have hduty : ∀ duty ∈ duties, (dutyRoutine d duty).filter (opens word) =
      (Description.opening d .processing (fun k => duty.kinds.contains k) word).map
        (deepIndent ++ ·) := by
    intro duty hmem
    have hsignatures : ∀ duty ∈ duties, indent ++ duty.signature ∈ frame := by decide
    rw [dutyRoutine, filter_routine hframe (hsignatures duty hmem), filter_dutyBody hd hone hword]
  have hcontrols : (controlDuties.flatMap (dutyRoutine d)).filter (opens word) =
      controlDuties.flatMap fun duty =>
        (Description.opening d .processing (fun k => duty.kinds.contains k) word).map
          (deepIndent ++ ·) := by
    rw [List.filter_flatMap]
    exact List.flatMap_congr fun duty hmem => hduty duty (List.mem_append_left _ hmem)
  have hall : Lacks word allControlsLines := hframe.of_subset (by decide)
  have hbody : Lacks word (bringUpBody []) := hframe.of_subset (by decide)
  simp only [linesOf, List.filter_append]
  rw [(hframe.of_subset (opening_subset_frame hd)).filter, filter_declarationLines hd hone hword,
    filter_routine hframe (by decide), filter_bringUpBody hd hone hword hbody, hcontrols,
    hall.filter, hduty lightDuty (by decide), hlast.filter]
  simp [duties]

/-! ### Routines of the header -/

lemma isSound_partsOf (hd : IsDescription d) (hone : d.IsOneLine) : (partsOf d).IsSound where
  inclusions := textsOf_inclusion hd
  declarations := areContributed_blocksOf hd hone .declaration _
  initializations := areContributed_blocksOf hd hone .initialization _
  serviced _ := areContributed_blocksOf hd hone .processing _

/-- The header of a normalized description comes out, and its lines are found again in its text. -/
theorem exists_source (hd : IsDescription d) (structName : String) (hname : OneLine structName) :
    ∃ text, source d structName = .ok text ∧ splitLines text = linesOf d structName := by
  have hone : ∀ line ∈ linesOf d structName, OneLine line := by
    rw [linesOf_eq]
    exact Parts.oneLine_lines (textsOf_inclusion hd) hname
  exact ⟨_, source_eq hd structName, splitLines_intercalate_append hone⟩

/-- The statements of the routine that brings everything up. -/
theorem bodyOf_bringUp (hd : IsDescription d) (hone : d.IsOneLine) (structName : String) :
    bodyOf bringUpSignature (linesOf d structName) = bringUpBody (textsOf d .initialization) := by
  rw [linesOf_eq]
  exact Parts.bodyOf_bringUp (isSound_partsOf hd hone) structName

/-- The statements of a routine that is called in every tick. -/
theorem bodyOf_duty (hd : IsDescription d) (hone : d.IsOneLine) {duty : Duty}
    (hduty : duty ∈ duties) (structName : String) :
    bodyOf duty.signature (linesOf d structName) = dutyBody d duty := by
  rw [linesOf_eq]
  exact Parts.bodyOf_duty (isSound_partsOf hd hone) hduty structName

end Header

end ControlSurface
