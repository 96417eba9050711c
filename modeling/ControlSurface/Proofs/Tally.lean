import ControlSurface.Proofs.Entries
import Mathlib.Data.List.Induction

/-!
# Tallies of texts

If all labels are texts then the tally lists each of them once, in the order in which they are first
met, with the number of times that it is bound.
-/

namespace ControlSurface

/-! ### First occurrences -/

lemma eraseDups_concat (labels : List String) (label : String) :
    (labels ++ [label]).eraseDups =
      if label ∈ labels then labels.eraseDups else labels.eraseDups ++ [label] := by
  rw [List.eraseDups_append, List.removeAll]
  by_cases h : label ∈ labels <;> simp [h, List.eraseDups_cons]

lemma nodup_eraseDups (labels : List String) : labels.eraseDups.Nodup := by
  induction labels using List.reverseRecOn with
  | nil => exact List.nodup_nil
  | append_singleton labels label ih =>
    rw [eraseDups_concat]
    split_ifs with h
    · exact ih
    · rw [← List.concat_eq_append, List.nodup_concat]
      exact ⟨fun hmem => h (List.mem_eraseDups.1 hmem), ih⟩

namespace Tally

/-- What is kept about a label that is a text. -/
def tallied (count : String → ℕ) (label : String) : Tallied :=
  ⟨.text label, .str label, .int (count label)⟩

/-- The tally of some labels. -/
def ofLabels (labels : List String) : Tally :=
  labels.eraseDups.map (tallied fun label => labels.count label)

/-- How a label is counted once more. -/
def once : Option Value → Except Fault Value
  | none => .ok (.int 1)
  | some n => n.plus (.int 1)

lemma change_of_notMem (count : String → ℕ) {label : String} {labels : List String}
    (h : label ∉ labels) : change (.text label) (.str label) once (labels.map (tallied count)) =
      .ok (labels.map (tallied count) ++ [⟨.text label, .str label, .int 1⟩]) := by
  induction labels with
  | nil => rfl
  | cons l rest ih =>
    obtain ⟨hl, hrest⟩ := List.ne_and_not_mem_of_not_mem_cons h
    have hkey : (tallied count l).key ≠ .text label := fun heq => hl (LabelKey.text.inj heq).symm
    rw [List.map_cons, change, if_neg hkey, ih hrest]
    rfl

lemma change_of_mem (count : String → ℕ) {label : String} {labels : List String}
    (h : label ∈ labels) (hnodup : labels.Nodup) :
    change (.text label) (.str label) once (labels.map (tallied count)) =
      .ok (labels.map (tallied (Function.update count label (count label + 1)))) := by
  induction labels with
  | nil => exact absurd h List.not_mem_nil
  | cons l rest ih =>
    obtain ⟨hfresh, hrest⟩ := List.nodup_cons.1 hnodup
    rw [List.map_cons, change]
    by_cases hl : l = label
    · subst hl
      have hsame : rest.map (tallied (Function.update count l (count l + 1))) =
          rest.map (tallied count) := by
        refine List.map_congr_left fun k hk => ?_
        have hne : k ≠ l := fun heq => hfresh (heq ▸ hk)
        rw [tallied, tallied, Function.update_of_ne hne]
      have hkey : (tallied count l).key = .text l := rfl
      rw [if_pos hkey, List.map_cons, hsame, tallied, tallied, Function.update_self]
      rfl
    · have hkey : (tallied count l).key ≠ .text label := fun heq => hl (LabelKey.text.inj heq)
      have hmem : label ∈ rest := (List.mem_cons.1 h).resolve_left (Ne.symm hl)
      rw [if_neg hkey, ih hmem hrest, List.map_cons, tallied, tallied, Function.update_of_ne hl]
      rfl

/-- Counting one more text. -/
theorem count_ofLabels (labels : List String) (label : String) :
    (ofLabels labels).count (.str label) = .ok (ofLabels (labels ++ [label])) := by
  have hstep : (ofLabels labels).count (.str label) =
      change (.text label) (.str label) once (ofLabels labels) := rfl
  rw [hstep, ofLabels, ofLabels, eraseDups_concat]
  by_cases h : label ∈ labels
  · rw [if_pos h, change_of_mem _ (List.mem_eraseDups.2 h) (nodup_eraseDups labels)]
    congr 2
    funext l
    by_cases hl : l = label
    · simp [tallied, hl]
    · simp [tallied, hl, Ne.symm hl]
  · rw [if_neg h, change_of_notMem _ fun hmem => h (List.mem_eraseDups.1 hmem)]
    have hfresh : labels.eraseDups.map (tallied fun l => (labels ++ [label]).count l) =
        labels.eraseDups.map (tallied fun l => labels.count l) := by
      refine List.map_congr_left fun l hl => ?_
      have hne : l ≠ label := fun heq => h (heq ▸ List.mem_eraseDups.1 hl)
      simp [tallied, hne.symm]
    have hone : (labels ++ [label]).count label = 1 := by simp [List.count_eq_zero.2 h]
    rw [List.map_append, hfresh, List.map_singleton, tallied, hone]
    rfl

lemma countLabels_eq {e : Value} (he : Label.IsLabelled e) (labels : List String) :
    (do (ofLabels labels).countLabels (← e.get "labels")) =
      .ok (ofLabels (labels ++ Label.namesOf e)) := by
  have hcount : (((Label.namesOf e).map Value.str).foldlM count (ofLabels labels)) =
      .ok (ofLabels (labels ++ Label.namesOf e)) := by
    rw [List.foldlM_map]
    have h := foldlM_eq_ok (l := Label.namesOf e) (f := fun t l => count t (.str l))
      (s := ofLabels) (g := fun l => [l]) (fun l _ done => count_ofLabels done l) labels
    simpa using h
  rcases he with ⟨hget, hnil⟩ | hget
  · rw [hget, hnil, List.append_nil]
    rfl
  · rw [hget]
    rw [← hcount]
    cases Label.namesOf e <;> rfl

end Tally

end ControlSurface
