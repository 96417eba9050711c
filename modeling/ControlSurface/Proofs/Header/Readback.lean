import ControlSurface.Proofs.Header.Parts
import ControlSurface.Proofs.Text.Paragraphs

/-!
# Fragments read back from a header

A header is cut into its regions by lines that no fragment can hold, a region into paragraphs by its
blank lines, and a paragraph behind the indent of its region is a fragment. So the fragments that a
header was put together from are found again in its lines, region by region and in their order.
-/

namespace ControlSurface

open Text

namespace Header

/-- What the lines that bring in a header open with. -/
def inclusionWord : String := "#include "

/-- The line that brings in the header of the board. -/
def boardInclusion : String := inclusionWord ++ "\"daisy_seed.h\""

/-- The line that declares the board. -/
def boardLine : String := indent ++ s!"DaisySeed {board};"

/-- The statements that bring up the board. -/
def boardStatements : List String :=
  [deepIndent ++ s!"{board}.Configure();", deepIndent ++ s!"{board}.Init(boost);"]

/-- The lines after the first occurrence of a line, up to the next one of another. -/
def between (first last : String) (lines : List String) : List String :=
  ((lines.dropWhile fun line => line ≠ first).drop 1).takeWhile fun line => line ≠ last

/-- A line without as many characters as an indent has. -/
def withoutIndent (indent line : String) : String :=
  String.ofList (line.toList.drop indent.toList.length)

/-- The fragments that a region of the header is made of: its paragraphs, without the indent. -/
def fragmentsIn (indent : String) (region : List String) : List String :=
  (paragraphs region).map fun block => fragmentText (block.map (withoutIndent indent))

/-- The fragments in the routines of all duties. -/
def servicedIn (lines : List String) : List String :=
  duties.flatMap fun duty => fragmentsIn deepIndent (bodyOf duty.signature lines)

/-- Whether the fragments of every phase can be read back from the lines of a header. Those that are
processed are in the routines of the duties taken together, each of them once. -/
structure ReadsBack (lines : List String) (fragments : Phase → List String) : Prop where
  inclusions : lines.filter (opens inclusionWord) = boardInclusion :: fragments .inclusion
  declarations : fragmentsIn indent (between boardLine (indent ++ bringUpSignature) lines) =
    fragments .declaration
  board : (bodyOf bringUpSignature lines).take 2 = boardStatements
  initializations : fragmentsIn deepIndent ((bodyOf bringUpSignature lines).drop 2) =
    fragments .initialization
  processing : (servicedIn lines).Perm (fragments .processing)
  nodup : (fragments .processing).Nodup

/-! ### Regions -/

lemma withoutIndent_append (indent line : String) :
    withoutIndent indent (indent ++ line) = line := by
  rw [withoutIndent, String.toList_append, List.drop_left, String.ofList_toList]

lemma IsIndent.solid_append {indent line : String} (hindent : IsIndent indent) (h : Solid line) :
    Solid (indent ++ line) := by
  obtain ⟨c, hc, hblank⟩ := h.notBlank
  refine ⟨hindent.oneLine.append h.oneLine, c, ?_, hblank⟩
  rw [String.toList_append]
  exact List.mem_append_right _ hc

/-- An empty line in front of a region plays no part. -/
lemma fragmentsIn_cons (indent : String) (lines : List String) :
    fragmentsIn indent ("" :: lines) = fragmentsIn indent lines := by
  rw [fragmentsIn, paragraphs_cons rfl, fragmentsIn]

/-- Nor does one behind it. -/
lemma fragmentsIn_concat (indent : String) (lines : List String) :
    fragmentsIn indent (lines ++ [""]) = fragmentsIn indent lines := by
  rw [fragmentsIn, paragraphs_concat rfl, fragmentsIn]

namespace AreContributed

variable {p : Phase} {fragments : List String} (h : AreContributed p fragments)
include h

/-- The fragments of a region are read back. -/
theorem fragmentsIn_region {indent : String} (hindent : IsIndent indent) :
    fragmentsIn indent (region fragments indent) = fragments := by
  obtain ⟨blocks, rfl, hblocks⟩ := h
  have hsolid : ∀ block ∈ blocks, ∀ line ∈ block, Solid line := fun block hblock =>
    (hblocks block hblock).solid
  rw [fragmentsIn, region_eq hindent hsolid, paragraphs_intercalate, List.map_map]
  · apply List.map_congr_left
    intro block _
    rw [Function.comp_apply, List.map_map]
    congr 1
    exact (List.map_congr_left fun line _ => withoutIndent_append indent line).trans (List.map_id _)
  · intro block hblock
    obtain ⟨own, hown, rfl⟩ := List.mem_map.1 hblock
    exact fun hnil => (hblocks own hown).nonempty (List.map_eq_nil_iff.1 hnil)
  · intro block hblock line hline
    obtain ⟨own, hown, rfl⟩ := List.mem_map.1 hblock
    obtain ⟨text, htext, rfl⟩ := List.mem_map.1 hline
    exact hindent.solid_append (hsolid own hown text htext)

lemma fragmentsIn_declarationLines :
    fragmentsIn indent ("" :: declarationLines fragments) = fragments := by
  rw [fragmentsIn_cons, declarationLines]
  split_ifs with hempty
  · rw [List.isEmpty_iff.1 hempty]
    rfl
  · rw [fragmentsIn_concat, h.fragmentsIn_region isIndent_indent]

lemma fragmentsIn_bringUpBody :
    fragmentsIn deepIndent ((bringUpBody fragments).drop 2) = fragments := by
  have hdrop : (bringUpBody fragments).drop 2 =
      if fragments.isEmpty then [] else "" :: region fragments deepIndent := rfl
  rw [hdrop]
  split_ifs with hempty
  · rw [List.isEmpty_iff.1 hempty]
    rfl
  · rw [fragmentsIn_cons, h.fragmentsIn_region isIndent_deepIndent]

end AreContributed

/-! ### Cuts -/

/-- What stands between two lines is found if neither of them occurs before. -/
lemma between_append {first last : String} {front inner back : List String}
    (hfirst : first ∉ front) (hlast : last ∉ inner) :
    between first last (front ++ first :: inner ++ last :: back) = inner := by
  rw [between, List.append_assoc, List.cons_append, dropWhile_ne hfirst, List.drop_one,
    List.tail_cons, takeWhile_ne hlast]

namespace Parts

section Frame

variable {parts : Parts} (h : parts.IsSound)
include h

/-- No line after the opening brings in a header. -/
lemma filter_inclusionWord (structName : String) :
    (parts.lines structName).filter (opens inclusionWord) =
      boardInclusion :: parts.inclusions := by
  have hforeign : ∀ p, p ≠ .inclusion → IsForeign inclusionWord p := by decide
  have hopening : (opening parts.inclusions).filter (opens inclusionWord) =
      boardInclusion :: parts.inclusions := by
    have hclosed : ∀ needs : Bool,
        (opening (if needs then [Display.familyHeader] else [])).filter (opens inclusionWord) =
          boardInclusion :: if needs then [Display.familyHeader] else [] := by
      decide
    obtain ⟨needs, hneeds⟩ := h.inclusions
    rw [hneeds]
    exact hclosed needs
  have hframe : ∀ signature ∈ bringUpSignature :: duties.map Duty.signature,
      opens inclusionWord (indent ++ signature) = false := by decide
  have hbraces : Lacks inclusionWord [indent ++ "\x7b", indent ++ "\x7d", ""] := by decide
  have hdeclarations : Lacks inclusionWord (declarationLines parts.declarations) :=
    h.declarations.lacks_declarationLines (hforeign _ (by decide))
  have hbringUp : Lacks inclusionWord
      (routine bringUpSignature (bringUpBody parts.initializations)) :=
    lacks_routine (hframe _ (List.mem_cons_self ..)) hbraces
      (h.initializations.lacks_bringUpBody (hforeign _ (by decide)) (by decide))
  have hduty : ∀ duty ∈ duties, Lacks inclusionWord (routine duty.signature (parts.body duty)) :=
    fun duty hduty => lacks_routine
      (hframe _ (List.mem_cons_of_mem _ (List.mem_map_of_mem hduty))) hbraces
      ((h.serviced duty).lacks_region (hforeign _ (by decide)) isIndent_deepIndent)
  have hcontrols : Lacks inclusionWord
      (controlDuties.flatMap fun duty => routine duty.signature (parts.body duty)) := by
    intro line hline
    obtain ⟨duty, hmem, hline⟩ := List.mem_flatMap.1 hline
    exact hduty duty (List.mem_append_left _ hmem) line hline
  have hall : Lacks inclusionWord allControlsLines := by decide
  have hlast : Lacks inclusionWord ["\x7d " ++ structName ++ ";"] := by
    intro line hline
    rw [List.mem_singleton.1 hline]
    exact ((leads_append "\x7d " structName).append ";").opens_eq_false (by decide) (by decide)
  simp only [lines, List.filter_append]
  rw [hopening, hdeclarations.filter, hbringUp.filter, hcontrols.filter, hall.filter,
    (hduty lightDuty (by decide)).filter, hlast.filter]
  simp only [List.append_nil]

/-- What stands between the line of the board and the signature after it. -/
lemma between_boardLine (structName : String) :
    between boardLine (indent ++ bringUpSignature) (parts.lines structName) =
      "" :: declarationLines parts.declarations := by
  obtain ⟨front, hopening, hfront⟩ : ∃ front,
      opening parts.inclusions = front ++ [boardLine, ""] ∧ boardLine ∉ front := by
    have hclosed : ∀ needs : Bool, ∃ front,
        opening (if needs then [Display.familyHeader] else []) = front ++ [boardLine, ""] ∧
          boardLine ∉ front := by
      intro needs
      refine ⟨(opening (if needs then [Display.familyHeader] else [])).dropLast.dropLast, ?_⟩
      revert needs
      decide
    obtain ⟨needs, hneeds⟩ := h.inclusions
    rw [hneeds]
    exact hclosed needs
  have hsignature : ∀ p, IsForeign bringUpSignature p := isForeign_signatures _ (by decide)
  have hinner : indent ++ bringUpSignature ∉ "" :: declarationLines parts.declarations := by
    rw [List.mem_cons, not_or]
    exact ⟨by decide, (h.declarations.lacks_declarationLines (hsignature _)).not_mem (by decide)⟩
  let back := (indent ++ "\x7b") :: bringUpBody parts.initializations ++
    [indent ++ "\x7d", ""] ++
    controlDuties.flatMap (fun duty => routine duty.signature (parts.body duty)) ++
    allControlsLines ++ routine lightDuty.signature (parts.body lightDuty) ++
    ["\x7d " ++ structName ++ ";"]
  have hlines : parts.lines structName =
      front ++ boardLine :: ("" :: declarationLines parts.declarations) ++
        (indent ++ bringUpSignature) :: back := by
    simp only [lines, hopening, routine, back, List.append_assoc, List.cons_append, List.nil_append]
  rw [hlines]
  exact between_append hfront hinner

end Frame

/-- All fragments of a header can be read back from its lines. -/
theorem readsBack {fragments : Phase → List String} {serviced : Duty → List String}
    (h : (Parts.of fragments serviced).IsSound)
    (hserviced : (duties.flatMap serviced).Perm (fragments .processing))
    (hnodup : (fragments .processing).Nodup) (structName : String) :
    ReadsBack ((Parts.of fragments serviced).lines structName) fragments where
  inclusions := filter_inclusionWord h structName
  declarations := by
    rw [between_boardLine h]
    exact h.declarations.fragmentsIn_declarationLines
  board := by
    rw [bodyOf_bringUp h]
    rfl
  initializations := by
    rw [bodyOf_bringUp h]
    exact h.initializations.fragmentsIn_bringUpBody
  processing := by
    have hbodies : servicedIn ((Parts.of fragments serviced).lines structName) =
        duties.flatMap serviced := by
      apply List.flatMap_congr
      intro duty hduty
      rw [bodyOf_duty h hduty]
      exact (h.serviced duty).fragmentsIn_region isIndent_deepIndent
    rw [hbodies]
    exact hserviced
  nodup := hnodup

end Parts

end Header

end ControlSurface
