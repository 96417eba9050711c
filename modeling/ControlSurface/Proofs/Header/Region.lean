import ControlSurface.Proofs.Generator.Fragment
import ControlSurface.Proofs.Text.Indent
import ControlSurface.Header

/-!
# Regions of the header

Fragments become lines behind an indent, with empty lines between them. What opens with a word is
found again fragment by fragment, and a routine can be cut out of the header by its signature.
-/

namespace ControlSurface

open Text

/-- What is read off the lines of blocks does not come from the empty lines between them. -/
lemma filterMap_intercalate {β : Type} {f : String → Option β} (h : f "" = none)
    (blocks : List (List String)) :
    ([""].intercalate blocks).filterMap f = blocks.flatMap (List.filterMap f) := by
  induction blocks with
  | nil => rfl
  | cons block rest ih =>
    cases rest with
    | nil => simp
    | cons block' rest =>
      rw [List.intercalate_cons_cons, List.filterMap_append, List.filterMap_append, ih,
        List.filterMap_cons_none h, List.filterMap_nil, List.append_nil]
      rfl

lemma filter_intercalate {p : String → Bool} (h : p "" = false) (blocks : List (List String)) :
    ([""].intercalate blocks).filter p = blocks.flatMap (List.filter p) := by
  have hguard : Option.guard p "" = none := by simp [h]
  simpa only [List.filterMap_eq_filter] using filterMap_intercalate hguard blocks

/-- What leaves empty lines alone can be done block by block. -/
lemma map_intercalate {f : String → String} (h : f "" = "") (blocks : List (List String)) :
    ([""].intercalate blocks).map f = [""].intercalate (blocks.map (List.map f)) := by
  induction blocks with
  | nil => rfl
  | cons block rest ih =>
    cases rest with
    | nil => simp
    | cons block' rest =>
      rw [List.map_cons] at ih
      rw [List.intercalate_cons_cons, List.map_append, List.map_append, ih, List.map_singleton, h,
        List.map_cons, List.map_cons, List.intercalate_cons_cons]

lemma mem_intercalate {line : String} {blocks : List (List String)}
    (h : line ∈ [""].intercalate blocks) : line = "" ∨ ∃ block ∈ blocks, line ∈ block := by
  induction blocks with
  | nil => exact absurd h List.not_mem_nil
  | cons block rest ih =>
    cases rest with
    | nil =>
      rw [List.intercalate_singleton] at h
      exact .inr ⟨block, List.mem_cons_self .., h⟩
    | cons block' rest =>
      rw [List.intercalate_cons_cons, List.mem_append, List.mem_append, List.mem_singleton] at h
      rcases h with (h | h) | h
      · exact .inr ⟨block, List.mem_cons_self .., h⟩
      · exact .inl h
      · exact (ih h).imp_right fun ⟨b, hb, hline⟩ => ⟨b, List.mem_cons_of_mem _ hb, hline⟩

lemma infix_intercalate {block : List String} {blocks : List (List String)} (h : block ∈ blocks) :
    block <:+: [""].intercalate blocks := by
  induction blocks with
  | nil => exact absurd h List.not_mem_nil
  | cons first rest ih =>
    cases rest with
    | nil => exact ⟨[], [], by simp [List.mem_singleton.1 h]⟩
    | cons second rest =>
      rw [List.intercalate_cons_cons]
      rcases List.mem_cons.1 h with rfl | h
      · rw [List.append_assoc]
        exact (List.prefix_append _ _).isInfix
      · exact (ih h).trans (List.suffix_append _ _).isInfix

namespace Header

/-- Whether a text is made of spaces. -/
def IsIndent (indent : String) : Prop := ∀ c ∈ indent.toList, c = ' '

lemma isIndent_indent : IsIndent indent := by
  intro c hc
  simpa [indent] using hc

lemma isIndent_deepIndent : IsIndent deepIndent := by
  intro c hc
  simpa [deepIndent] using hc

lemma IsIndent.oneLine {indent : String} (h : IsIndent indent) : OneLine indent := by
  intro c hc
  rw [h c hc]
  rfl

variable {indent word : String} {blocks : List (List String)}

/-- The lines of a region. -/
theorem region_eq (hindent : IsIndent indent)
    (h : ∀ block ∈ blocks, ∀ line ∈ block, Solid line) :
    region (blocks.map fragmentText) indent =
      [""].intercalate (blocks.map fun block => block.map (indent ++ ·)) := by
  have hblocks : (blocks.map fragmentText).map (indentedLines indent) =
      blocks.map fun block => block.map (indent ++ ·) := by
    rw [List.map_map]
    apply List.map_congr_left
    intro block hblock
    rw [Function.comp_apply, indentedLines, fragmentText,
      splitLines_indentLines hindent.oneLine (h block hblock)]
  rw [region, hblocks]

lemma opens_empty (hword : word ≠ "") : opens word "" = false := by
  rw [opens, String.toList_empty, List.dropWhile_nil, Bool.eq_false_iff]
  intro h
  rw [List.isPrefixOf_iff_prefix, List.prefix_nil] at h
  exact hword (String.toList_eq_nil_iff.1 h)

/-- What opens with a word in a region. -/
theorem filter_region (hindent : IsIndent indent) (hword : word ≠ "")
    (h : ∀ block ∈ blocks, ∀ line ∈ block, Solid line) :
    (region (blocks.map fragmentText) indent).filter (opens word) =
      (blocks.flatMap (List.filter (opens word))).map (indent ++ ·) := by
  rw [region_eq hindent h, filter_intercalate (opens_empty hword), List.flatMap_map,
    List.map_flatMap]
  congr 1
  funext block
  exact filter_opens_indent hindent word block

/-- Fragments become lines, whatever they hold. -/
lemma oneLine_of_mem_region {fragments : List String} {line : String}
    (hline : line ∈ region fragments indent) : OneLine line := by
  rcases mem_intercalate hline with rfl | ⟨block, hblock, hline⟩
  · decide
  · obtain ⟨fragment, -, rfl⟩ := List.mem_map.1 hblock
    exact oneLine_of_mem_splitLines hline

/-- Every line of a region that is not blank is behind the indent. -/
lemma isBlankText_or_of_mem_region (hindent : IsIndent indent) {fragments : List String}
    {line : String} (hline : line ∈ region fragments indent) :
    isBlankText line = true ∨ ∃ rest, line = indent ++ rest := by
  rcases mem_intercalate hline with rfl | ⟨block, hblock, hline⟩
  · exact .inl rfl
  · obtain ⟨fragment, -, rfl⟩ := List.mem_map.1 hblock
    rw [indentedLines, splitLines_indentLines_eq hindent.oneLine] at hline
    obtain ⟨rest, -, rfl⟩ := List.mem_map.1 hline
    rw [indentLine]
    split_ifs with hblank
    · exact .inl hblank
    · exact .inr ⟨rest, rfl⟩

/-! ### Routines -/

/-- The statements of a routine, cut out of the lines of a header by its signature and the brace
that closes it. -/
def bodyOf (signature : String) (lines : List String) : List String :=
  ((lines.dropWhile fun line => line ≠ Header.indent ++ signature).drop 2).takeWhile
    fun line => line ≠ Header.indent ++ "\x7d"

lemma dropWhile_ne {line : String} {front back : List String} (h : line ∉ front) :
    (front ++ line :: back).dropWhile (fun l => decide (l ≠ line)) = line :: back := by
  rw [List.dropWhile_append_of_pos, List.dropWhile_cons_of_neg (by simp)]
  intro l hl
  exact decide_eq_true fun heq => h (heq ▸ hl)

lemma takeWhile_ne {line : String} {front back : List String} (h : line ∉ front) :
    (front ++ line :: back).takeWhile (fun l => decide (l ≠ line)) = front := by
  rw [List.takeWhile_append_of_pos, List.takeWhile_cons_of_neg (by simp), List.append_nil]
  intro l hl
  exact decide_eq_true fun heq => h (heq ▸ hl)

/-- A routine is cut out whole if its signature does not occur before it, nor a closing brace in
it. -/
theorem bodyOf_append {signature : String} {front statements back : List String}
    (hfront : Header.indent ++ signature ∉ front) (hbody : Header.indent ++ "\x7d" ∉ statements) :
    bodyOf signature (front ++ routine signature statements ++ back) = statements := by
  have hlines : front ++ routine signature statements ++ back =
      front ++ (Header.indent ++ signature) :: (Header.indent ++ "\x7b") ::
        (statements ++ (Header.indent ++ "\x7d") :: "" :: back) := by
    simp [routine]
  rw [bodyOf, hlines, dropWhile_ne hfront]
  exact takeWhile_ne hbody

end Header

end ControlSurface
