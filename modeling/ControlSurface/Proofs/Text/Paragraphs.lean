import ControlSurface.Proofs.Text.Lines
import Mathlib.Data.List.Basic

/-!
# Paragraphs

Lines fall into paragraphs where blank lines stand between them. Blocks that are put together with
an empty line between one and the next are the paragraphs of what comes out.
-/

namespace ControlSurface.Text

/-- What stands between blank lines. -/
def paragraphs (lines : List String) : List (List String) :=
  (lines.splitOnP isBlankText).filter fun block => !block.isEmpty

variable {line : String} {block : List String}

/-- A blank line parts what is before it from what is behind it. -/
lemma paragraphs_append (h : isBlankText line = true) (front back : List String) :
    paragraphs (front ++ line :: back) = paragraphs front ++ paragraphs back := by
  unfold paragraphs
  rw [List.splitOnP_append_cons front back h, List.filter_append]

lemma paragraphs_nil : paragraphs [] = [] := rfl

/-- A blank line in front is no part of any paragraph. -/
lemma paragraphs_cons (h : isBlankText line = true) (lines : List String) :
    paragraphs (line :: lines) = paragraphs lines := by
  simpa [paragraphs_nil] using paragraphs_append h [] lines

/-- Nor is one at the end. -/
lemma paragraphs_concat (h : isBlankText line = true) (lines : List String) :
    paragraphs (lines ++ [line]) = paragraphs lines := by
  rw [paragraphs_append h, paragraphs_nil, List.append_nil]

/-- Lines of which none is blank are one paragraph. -/
lemma paragraphs_eq_singleton (hne : block ≠ []) (h : ∀ line ∈ block, Solid line) :
    paragraphs block = [block] := by
  have hsplit : block.splitOnP isBlankText = [block] :=
    List.splitOnP_eq_singleton fun line hline =>
      Bool.eq_false_iff.2 (h line hline).not_isBlankText
  rw [paragraphs, hsplit]
  simp [hne]

/-- Blocks with empty lines between them are found again. -/
theorem paragraphs_intercalate {blocks : List (List String)} (hne : ∀ block ∈ blocks, block ≠ [])
    (h : ∀ block ∈ blocks, ∀ line ∈ block, Solid line) :
    paragraphs ([""].intercalate blocks) = blocks := by
  induction blocks with
  | nil => rfl
  | cons block rest ih =>
    obtain ⟨hblock, hrest⟩ := List.forall_mem_cons.1 hne
    obtain ⟨hsolid, hsolids⟩ := List.forall_mem_cons.1 h
    have hfirst := paragraphs_eq_singleton hblock hsolid
    cases rest with
    | nil => rw [List.intercalate_singleton, hfirst]
    | cons block' rest =>
      rw [List.intercalate_cons_cons, List.append_assoc, List.singleton_append,
        paragraphs_append rfl, hfirst, ih hrest hsolids, List.singleton_append]

end ControlSurface.Text
