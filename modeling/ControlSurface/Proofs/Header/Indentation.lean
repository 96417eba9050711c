import ControlSurface.Proofs.Header.Readback

/-!
# Fragments behind an indent

A region has the lines that its fragments have, whatever these are cut by: each is behind the indent
or, if it is blank, as it was, and an empty line stands between one fragment and the next. So the
indent can be taken off again. All that an indent needs for this is to be one line itself.
-/

namespace ControlSurface

open Text

namespace Header

/-- A line of a region as it was before it got the indent. -/
def outdentLine (indent line : String) : String :=
  if isBlankText line then line else withoutIndent indent line

/-- Whether lines are those of fragments behind an indent. No line is put together with another or
cut once more, and without the indent they are the lines of before, each ended as it was. -/
structure IsIndented (indent : String) (fragments lines : List String) : Prop where
  eq_intercalate : lines =
    [""].intercalate (fragments.map fun fragment => (splitLines fragment).map (indentLine indent))
  outdented : lines.map (outdentLine indent) = [""].intercalate (fragments.map splitLines)
  oneLine : ∀ line ∈ lines, OneLine line
  endings : ∀ fragment ∈ fragments,
    (linesOf (indentLines indent fragment).toList).map Line.ending =
      (linesOf fragment.toList).map Line.ending

variable {indent : String}

/-- The indent is taken off again, also from a line that begins with spaces of its own. -/
theorem outdentLine_indentLine (indent line : String) :
    outdentLine indent (indentLine indent line) = line := by
  rw [outdentLine, isBlankText_indentLine, indentLine]
  split_ifs
  · rfl
  · exact withoutIndent_append indent line

lemma outdentLine_empty (indent : String) : outdentLine indent "" = "" := rfl

/-- A region has the lines of its fragments, one fragment after the other. -/
theorem region_eq_intercalate (hindent : OneLine indent) (fragments : List String) :
    region fragments indent = [""].intercalate
      (fragments.map fun fragment => (splitLines fragment).map (indentLine indent)) := by
  have hlines : ∀ fragment ∈ fragments,
      indentedLines indent fragment = (splitLines fragment).map (indentLine indent) :=
    fun fragment _ => splitLines_indentLines_eq hindent fragment
  rw [region, List.map_congr_left hlines]

/-- Without the indent, a region has the lines of its fragments as they were. -/
theorem map_outdentLine_region (hindent : OneLine indent) (fragments : List String) :
    (region fragments indent).map (outdentLine indent) =
      [""].intercalate (fragments.map splitLines) := by
  rw [region_eq_intercalate hindent, map_intercalate (outdentLine_empty indent), List.map_map]
  congr 1
  apply List.map_congr_left
  intro fragment _
  rw [Function.comp_apply, List.map_map]
  exact (List.map_congr_left fun line _ => outdentLine_indentLine indent line).trans (List.map_id _)

lemma map_ending_indentLines (hindent : OneLine indent) (s : String) :
    (linesOf (indentLines indent s).toList).map Line.ending =
      (linesOf s.toList).map Line.ending := by
  rw [linesOf_indentLines hindent, List.map_map]
  exact List.map_congr_left fun l _ => Line.ending_shift indent.toList l

/-- Putting fragments behind an indent leaves their lines what they are. The indent may be of spaces
(`IsIndent.oneLine`) or anything else without a line boundary. -/
theorem region_isIndented (hindent : OneLine indent) (fragments : List String) :
    IsIndented indent fragments (region fragments indent) where
  eq_intercalate := region_eq_intercalate hindent fragments
  outdented := map_outdentLine_region hindent fragments
  oneLine := fun _ => oneLine_of_mem_region
  endings := fun fragment _ => map_ending_indentLines hindent fragment

/-- Fragments with all sorts of line boundaries, one of them empty, one with blank lines at its
seams. -/
theorem region_isIndented_mixed : OneLine "  " ∧
    IsIndented "  " ["a\r\n \r\n\rb\u2028", "", "\n\x0bc\x85 d\x1c\t"]
      ["  a", " ", "", "  b", "", "", "", "", "  c", "   d", "\t"] := by
  have hindent : OneLine "  " := by decide
  have hlines : region ["a\r\n \r\n\rb\u2028", "", "\n\x0bc\x85 d\x1c\t"] "  " =
      ["  a", " ", "", "  b", "", "", "", "", "  c", "   d", "\t"] := by decide +kernel
  rw [← hlines]
  exact ⟨hindent, region_isIndented hindent _⟩

end Header

end ControlSurface
