import ControlSurface.Keyed
import ControlSurface.Proofs.Header.Banks
import Mathlib.Algebra.GroupWithZero.Nat

/-!
# Slots of the header

Every slot that the header declares is brought up once and serviced once, and the number of slots is
the number of entries that are counted for the kind.
-/

namespace ControlSurface

open Schema Text

namespace Description

variable {d : Value} {k : Kind}

lemma counts_eq_of_lists (h : ∀ key ∈ entryKeys, Lists d key) :
    counts d = .ok (entryKeys.map fun key => (key, (listed d key).length)) := by
  refine mapM_eq_ok fun key hkey => ?_
  obtain ⟨w, hget, hlength⟩ := (h key hkey).length_get_eq
  rw [hget]
  dsimp only [bind, Except.bind]
  rw [hlength]
  rfl

lemma counts_eq (hd : IsDescription d) :
    counts d = .ok (entryKeys.map fun key => (key, (listed d key).length)) := by
  refine counts_eq_of_lists fun key hkey => ?_
  obtain ⟨k, -, hkey⟩ := List.mem_flatMap.1 hkey
  obtain ⟨record, hrecord⟩ := exists_isListedAs hkey
  exact lists_of_isListedAs hd hrecord

lemma lookup_map_self {α : Type} (f : String → α) {keys : List String} {key : String}
    (h : key ∈ keys) : (keys.map fun key => (key, f key)).lookup key = some (f key) := by
  induction keys with
  | nil => exact absurd h List.not_mem_nil
  | cons first rest ih =>
    rw [List.map_cons, Keyed.lookup_cons_eq]
    split_ifs with heq
    · rw [heq]
    · exact ih ((List.mem_cons.1 h).resolve_left heq)

/-- The slots of a kind are as many as the entries counted under its keys. -/
lemma length_slots (hk : k ≠ .cvOutput) : (slots d k).length =
    (k.keys.map fun key =>
      ((entryKeys.map fun key => (key, (listed d key).length)).lookup key).getD 0).sum := by
  rw [slots, if_neg hk, List.length_flatMap]
  congr 1
  refine List.map_congr_left fun key hkey => ?_
  have hmem : key ∈ entryKeys := List.mem_flatMap.2 ⟨k, Kind.mem_all k, hkey⟩
  rw [lookup_map_self _ hmem, Option.getD_some]

end Description

namespace Header

/-- How a bank with some slots shows in the lines of a header. -/
structure ShowsBank (b : Bank) (slots : List Value) (lines : List String) : Prop where
  /-- The array is declared once with the number of its slots, unless there are none. -/
  declared : lines.filter (opens b.arrayWord) =
    if slots.isEmpty then [] else [indent ++ b.arrayLine slots.length]
  /-- The references are the shortcuts to the first slot, and the labels in their order. -/
  referenced : lines.filter (opens b.referenceWord) =
    if slots.isEmpty then [] else (b.referenceLines slots).map (indent ++ ·)
  /-- A label refers to the slot of the entry that it belongs to. -/
  labelled : ∀ binding ∈ Label.aliases slots,
    ∃ e, slots[binding.2]? = some e ∧ binding.1 ∈ Label.namesOf e
  /-- Every statement about a slot brings it up or services it, both in ascending order. -/
  used : lines.filter (opens b.slotWord) =
    (b.slotLines slots ++ b.servicing slots.length).map (deepIndent ++ ·)
  /-- Each slot is brought up by one line, with the fields of its entry. -/
  broughtUp : ∀ i, lines.filter (opens (b.callWord i "Init")) =
    (slots[i]?.map fun e => deepIndent ++ b.initLine e i).toList
  /-- These lines are in the routine that brings everything up. -/
  broughtUpInside : (bodyOf bringUpSignature lines).filter (opens b.slotWord) =
    (b.slotLines slots).map (deepIndent ++ ·)
  /-- There they stand with the lines that set up what the slots are brought up with. -/
  setUp : slots ≠ [] →
    (b.initLines slots).map (deepIndent ++ ·) <:+: bodyOf bringUpSignature lines
  /-- Each slot is serviced by one line, if the bank is serviced. -/
  serviced : ∀ method, b.service? = some method → ∀ i,
    lines.filter (opens (b.callWord i method)) =
      if i < slots.length then [deepIndent ++ b.serviceLine method i] else []
  /-- These lines are in the routine of the bank. -/
  servicedInside : ∀ name, routineOf? b = some name →
    (bodyOf s!"void {name}()" lines).filter (opens b.slotWord) =
      (b.servicing slots.length).map (deepIndent ++ ·)

lemma leads_callWord (b : Bank) (i : ℕ) (method : String) :
    Leads b.slotWord (b.callWord i method) :=
  (((leads_append _ _).append _).append _).append _

/-- Lines that open with a word are looked for among those that open with a beginning of it. -/
lemma filter_opens_of_leads_word {lead word : String} (h : Leads lead word) (lines : List String) :
    lines.filter (opens word) = (lines.filter (opens lead)).filter (opens word) := by
  rw [List.filter_filter]
  refine List.filter_congr fun line _ => ?_
  cases hword : opens word line with
  | false => rfl
  | true => rw [opens_of_leads h hword]; rfl

theorem linesOf_showsBank {d : Value} {k : Kind} {b : Bank} (hd : IsDescription d)
    (hone : d.IsOneLine) (hb : k.bank? = some b) (structName : String) :
    ShowsBank b (Description.slots d k) (linesOf d structName) where
  declared := filter_arrayWord hd hone hb structName
  referenced := filter_referenceWord hd hone hb structName
  labelled _ hbinding := Bank.exists_of_mem_aliases hbinding
  used := filter_slotWord hd hone hb structName
  broughtUp i := by
    rw [filter_opens_of_leads_word (leads_callWord b i "Init"), filter_slotWord hd hone hb,
      filter_opens_indent isIndent_deepIndent, b.filter_init]
    cases (Description.slots d k)[i]? <;> rfl
  broughtUpInside := filter_slotWord_bringUp hd hone hb structName
  setUp hslots := initLines_infix hd hone hb hslots structName
  serviced method hmethod i := by
    rw [filter_opens_of_leads_word (leads_callWord b i method), filter_slotWord hd hone hb,
      filter_opens_indent isIndent_deepIndent, Bank.filter_service hmethod]
    split_ifs <;> rfl
  servicedInside _ hname := filter_slotWord_routine hd hone hb hname structName

/-- The header of a normalized description shows every bank with the slots of its kind. -/
theorem source_showsBanks {v d : Value} (hd : normalizeHardware v = .ok d) (hone : d.IsOneLine) :
    ∃ text counts, source d defaultName = .ok text ∧ Description.counts d = .ok counts ∧
      (∀ b : Bank, ∃ k : Kind, k.bank? = some b) ∧
      ∀ k b, k.bank? = some b → IsSpelled k b ∧ ∃ slots,
        Description.entriesOf d k = .ok slots ∧
        slots = k.keys.flatMap (Description.listed d) ∧
        slots.length = (k.keys.map fun key => (counts.lookup key).getD 0).sum ∧
        ShowsBank b slots (splitLines text) := by
  have hdescription := isDescription_of_normalize hd
  obtain ⟨text, htext, hlines⟩ := exists_source hdescription defaultName (by decide)
  obtain ⟨hall, hspelled⟩ := isSpelled_bank
  refine ⟨text, _, htext, Description.counts_eq hdescription, fun b => ?_, fun k b hb => ?_⟩
  · obtain ⟨k, -, hk⟩ := hall b
    exact ⟨k, hk⟩
  have hcv : k ≠ .cvOutput := by
    rintro rfl
    cases hb
  refine ⟨hspelled k b hb, Description.slots d k, Description.entriesOf_eq hdescription k, ?_,
    Description.length_slots hcv, ?_⟩
  · rw [Description.slots, if_neg hcv]
  · rw [hlines]
    exact linesOf_showsBank hdescription hone hb defaultName

/-- A knob that is called gain, and a CV input behind it. -/
def gainPanel : Value := .obj [
  ("analog_controls", .arr [.obj [("labels", .arr [.str "gain"]), ("pin", .int 15)]]),
  ("cv_inputs", .arr [.obj [("pin", .str "A1"), ("flip", .bool true)]])]

/-- Their lines in the header. -/
theorem source_showsBanks_gain :
    (normalizeHardware gainPanel = .ok gainPanel ∧ gainPanel.IsOneLine) ∧
    ∃ text slots, source gainPanel defaultName = .ok text ∧
      Description.entriesOf gainPanel .analogControl = .ok slots ∧ slots.length = 2 ∧
      ShowsBank .controls slots (splitLines text) ∧
      (splitLines text).filter (opens "AnalogControl controls[") =
        ["    AnalogControl controls[2];"] ∧
      (splitLines text).filter (opens "AnalogControl& ") =
        ["    AnalogControl& gain = controls[0];"] ∧
      (splitLines text).filter (opens "controls[") = [
        "        controls[0].Init(seed.adc.GetPtr(0), seed.AudioCallbackRate(), false, false);",
        "        controls[1].Init(seed.adc.GetPtr(1), seed.AudioCallbackRate(), true, false);",
        "        controls[0].Process();",
        "        controls[1].Process();"] ∧
      (bodyOf "void ProcessAnalogControls()" (splitLines text)).filter (opens "controls[") =
        ["        controls[0].Process();", "        controls[1].Process();"] := by
  have hd : normalizeHardware gainPanel = .ok gainPanel := rfl
  have hone : gainPanel.IsOneLine := by
    simp only [gainPanel, Value.IsOneLine, Value.FieldsAreOneLine, Value.AreOneLine, and_true]
    decide
  obtain ⟨text, counts, htext, -, -, hbanks⟩ := source_showsBanks hd hone
  obtain ⟨-, slots, hentries, rfl, -, hshows⟩ := hbanks .analogControl .controls rfl
  refine ⟨⟨hd, hone⟩, text, _, htext, hentries, rfl, hshows, hshows.declared, hshows.referenced,
    hshows.used, ?_⟩
  exact hshows.servicedInside "ProcessAnalogControls" rfl

end Header

end ControlSurface
