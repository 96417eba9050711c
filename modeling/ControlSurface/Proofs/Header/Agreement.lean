import ControlSurface.Notes
import ControlSurface.Proofs.Generator.Agreement

/-!
# Agreement of descriptions

Two descriptions that no kind can tell apart have the same header and the same members. If their
lists are as long, and their entries have the same labels, the notes about them are the same too.
-/

namespace ControlSurface

variable {d d' : Value}

/-! ### Headers -/

namespace Description

/-- Whether no kind can tell two descriptions apart by its entries. -/
def Agree (d d' : Value) : Prop := ∀ k : Kind, ∃ entries entries',
  entriesOf d k = .ok entries ∧ entriesOf d' k = .ok entries' ∧ k.Agree entries entries'

theorem fragments_congr (h : Agree d d') (phase : Except Fault Phase)
    (selected : Kind → Except Fault Bool) :
    fragments d phase selected = fragments d' phase selected := by
  have hlines (k : Kind) :
      selectedLines d phase selected k = selectedLines d' phase selected k := by
    obtain ⟨entries, entries', hentries, hentries', hagree⟩ := h k
    unfold selectedLines
    rw [hentries, hentries']
    dsimp only [bind, Except.bind]
    simp only [k.fragmentLines_congr hagree]
  have hall : selectedLines d phase selected = selectedLines d' phase selected := funext hlines
  rw [fragments, fragments, fragmentLines, fragmentLines, hall]

end Description

namespace Header

variable (hd : d.IsObject) (hd' : d'.IsObject) (h : Description.Agree d d')
include hd hd' h

theorem source_congr (structName : String) : source d structName = source d' structName := by
  obtain ⟨fields, rfl⟩ := hd
  obtain ⟨fields', rfl⟩ := hd'
  have hphase : phaseFragments (.obj fields) = phaseFragments (.obj fields') :=
    funext fun p => Description.fragments_congr h _ _
  have hduty : dutyLines (.obj fields) = dutyLines (.obj fields') := by
    funext duty
    rw [dutyLines, dutyLines, dutyFragments, dutyFragments, Description.fragments_congr h]
  rw [source, source, lines, lines, orElse_obj, orElse_obj, hphase, hduty]

theorem members_congr : members d = members d' := by
  obtain ⟨fields, rfl⟩ := hd
  obtain ⟨fields', rfl⟩ := hd'
  have hkinds (k : Kind) : (do k.members (.arr (← Description.entriesOf (.obj fields) k))) =
      (do k.members (.arr (← Description.entriesOf (.obj fields') k))) := by
    obtain ⟨entries, entries', hentries, hentries', hagree⟩ := h k
    rw [hentries, hentries']
    exact k.members_congr hagree
  rw [members, members, orElse_obj, orElse_obj, funext hkinds]

end Header

/-! ### Notes -/

namespace Notes

open Description

lemma tally_congr (h : ∀ key ∈ labelKeys, Lists d key ∧ Lists d' key ∧
    List.Forall₂ (Value.AgreeOn ["labels"]) (listed d key) (listed d' key)) :
    tally d = tally d' := by
  refine foldlM_congr (List.forall₂_same.2 fun key hkey t => ?_) []
  obtain ⟨hlists, hlists', hentries⟩ := h key hkey
  rw [hlists.entriesUnder_eq, hlists'.entriesUnder_eq]
  refine foldlM_congr (hentries.imp fun e e' he t => ?_) t
  rw [he "labels" (List.mem_singleton_self _)]

theorem ofDescription_congr (hcv : Lists d "cv_outputs") (hcv' : Lists d' "cv_outputs")
    (hlength : (listed d "cv_outputs").length = (listed d' "cv_outputs").length)
    (hmembers : Header.members d = Header.members d') (htally : tally d = tally d') :
    ofDescription d = ofDescription d' := by
  obtain ⟨w, hget, hw⟩ := hcv.length_get_eq
  obtain ⟨w', hget', hw'⟩ := hcv'.length_get_eq
  rw [ofDescription, ofDescription, hget, hget', hmembers, htally]
  dsimp only [bind, Except.bind]
  rw [hw, hw', hlength]

end Notes

end ControlSurface
