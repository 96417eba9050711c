import ControlSurface.Proofs.Header.Agreement
import ControlSurface.Proofs.Header.Slots
import ControlSurface.Proofs.Notes
import ControlSurface.Proofs.Schema.Kept

/-!
# Descriptions of the declared types

Checking a description may change it: nulls are left out, fields change places, some values are
spelled in another way. If every declared field is of its type from the start, no generator can tell
the description from the one that has been checked.
-/

namespace ControlSurface

open Schema

namespace Schema

variable {τ : Type} {check : τ → Value → Checked Value} {fits : τ → Value → Prop} {r : Record τ}
  {f : Field τ} {e e' v d : Value}

/-! ### Declared types -/

/-- Whether a value is null or fits. -/
def OrNull (fits : τ → Value → Prop) (t : τ) (v : Value) : Prop := v = .null ∨ fits t v

/-- Whether a value is of the type that is declared for a field of an entry. -/
def EntryType.IsTyped : EntryType → Value → Prop
  | .scalar type, v => type.Fits v
  | .labels, v => ListFits (Scalar.Fits .text) v
  | .settings record, v => record.Fits (OrNull Scalar.Fits) v

/-- Whether every declared field of a description, of its entries and of their settings is missing,
null or of its declared type. -/
def IsTyped (v : Value) : Prop :=
  hardware.Fits (OrNull fun record => ListFits (record.Fits (OrNull EntryType.IsTyped))) v

/-! ### Fields -/

lemma fits_field (h : r.Fits (OrNull fits) e) (hf : f ∈ r.fields)
    (hnull : e.field f.spelling ≠ .null) : fits f.type (e.field f.spelling) := by
  obtain ⟨fields, rfl, hfields⟩ := h
  exact (hfields f hf _ (Value.lookup_of_field rfl hnull)).resolve_left hnull

/-- A field that its check would leave as it is stays as it is. -/
lemma get_eq_of_fits (hr : r.IsProper) (h : r.normalize check e = .ok e')
    (hfits : r.Fits (OrNull fits) e) (hf : f ∈ r.fields) (hplain : f.name = f.spelling)
    (hself : ∀ w, fits f.type w → check f.type w = .ok w) :
    e.get f.spelling = e'.get f.spelling := by
  refine get_eq_of_normalize hr h hf hplain fun hnull w hw => ?_
  have hkept := hself _ (fits_field hfits hf hnull)
  exact Except.ok.inj (hw.symm.trans hkept)

/-- The same for all simple fields of an entry. -/
lemma get_eq_of_isSimple {r : Record EntryType} {f : Field EntryType} (hr : r.IsProper)
    (h : r.normalize EntryType.check e = .ok e') (htyped : r.Fits (OrNull EntryType.IsTyped) e)
    (hf : f ∈ r.fields) (hplain : f.name = f.spelling) (hsimple : f.type.isSimple = true) :
    e.get f.spelling = e'.get f.spelling := by
  refine get_eq_of_fits hr h htyped hf hplain fun w hw => ?_
  obtain ⟨t, htype⟩ := EntryType.exists_eq_scalar hsimple
  rw [htype] at hw ⊢
  exact Scalar.check_self hw

/-! ### Entries -/

/-- An entry of the declared types, and what a check makes of it. -/
structure Kept (record : Record EntryType) (e e' : Value) : Prop where
  typed : record.Fits (OrNull EntryType.IsTyped) e
  normalized : record.normalize EntryType.check e = .ok e'

variable {key : String} {record : Record EntryType}

lemma listed_isTyped (htyped : IsTyped v) (hkey : Description.IsListedAs key record) :
    ∀ e ∈ Description.listed v key, record.Fits (OrNull EntryType.IsTyped) e := by
  intro e he
  have hnull : v.field key ≠ .null := by
    intro hnull
    rw [listed_of_field_eq_null hnull] at he
    cases he
  obtain ⟨entries, hentries, hfits⟩ : ListFits _ (v.field key) := fits_field htyped hkey hnull
  rw [listed_of_field_eq_arr hentries] at he
  exact hfits e he

lemma listed_kept (h : normalizeHardware v = .ok d) (htyped : IsTyped v)
    (hkey : Description.IsListedAs key record) :
    List.Forall₂ (Kept record) (Description.listed v key) (Description.listed d key) := by
  have hboth := (List.forall₂_and_left _ _).2
    ⟨listed_isTyped htyped hkey, (listed_of_normalize h hkey).2⟩
  exact hboth.imp fun _ _ he => ⟨he.1, he.2⟩

end Schema

/-! ### Kinds -/

namespace Kind

variable {k : Kind} {b : Bank} {v d e e' : Value} {key : String} {record : Record EntryType}

/-- Every field that a bank reads, other than labels, is a simple field of its entries. -/
lemma readKeys_isSimple : ∀ k : Kind, ∀ b ∈ k.bank?, ∀ f ∈ hardware.fields,
    f.spelling ∈ k.keys → ∀ key ∈ b.writtenKeys ++ b.flagKeys,
      ∃ g ∈ f.type.fields, g.spelling = key ∧ g.name = g.spelling ∧ g.type.isSimple = true := by
  decide

lemma agreeOn_of_kept (hb : k.bank? = some b) (hlistKey : key ∈ k.keys)
    (hkey : Description.IsListedAs key record) (h : Kept record e e') :
    e.AgreeOn b.readKeys e' := by
  intro name hname
  rcases List.mem_cons.1 hname with rfl | hname
  · exact labels_of_normalize hkey h.normalized
  · obtain ⟨g, hg, rfl, hplain, hsimple⟩ := readKeys_isSimple k b hb _ hkey hlistKey name hname
    exact get_eq_of_isSimple (hardware_isProper.2 _ hkey).1 h.normalized h.typed hg hplain hsimple

end Kind

/-! ### Displays -/

namespace Display

variable {e e' : Value}

lemma agreeOn_driverKeys (h : Kept display e e') : e.AgreeOn driverKeys e' := by
  intro key hkey
  have htext : textField key ∈ display.fields := by
    have hall : ∀ key ∈ driverKeys, textField key ∈ display.fields := by
      simp [driverKeys, display, entry]
    exact hall key hkey
  exact get_eq_of_isSimple (f := textField key) (by decide) h.normalized h.typed htext rfl rfl

/-- The settings of a transport, before and after the display has been checked. -/
lemma settings_of_kept (h : Kept display e e') {f : Schema.Field EntryType}
    (hf : f ∈ display.fields) {record : Record Scalar} (htype : f.type = .settings record)
    (hproper : record.IsProper)
    (hname : ∀ fields, e = .obj fields → fields.lookup f.spelling = none →
      fields.lookup f.name = none) (keys : List String)
    (hkeys : ∀ key ∈ keys, ∃ g ∈ record.fields, g.spelling = key ∧ g.name = g.spelling) :
    ∃ s s', settingsOf e f.spelling = .ok s ∧ settingsOf e' f.spelling = .ok s' ∧
      s.AgreeOn keys s' := by
  obtain ⟨hobject, hobject'⟩ := isObject_of_normalize h.normalized
  refine ⟨_, _, settingsOf_eq hobject _, settingsOf_eq hobject' _, ?_⟩
  rw [settingsIn_eq_field hobject, settingsIn_eq_field hobject']
  rcases field_of_normalize (by decide) h.normalized hf hname with
    ⟨hnull, hnull'⟩ | ⟨hnull, hchecked⟩
  · rw [hnull, hnull']
    exact fun _ _ => rfl
  · have htyped := fits_field h.typed hf hnull
    rw [htype] at htyped hchecked
    obtain ⟨⟨fields, hfields⟩, fields', hfields'⟩ := isObject_of_normalize hchecked
    rw [hfields, hfields', orElse_obj, orElse_obj, ← hfields, ← hfields']
    intro key hkey
    obtain ⟨g, hg, rfl, hplain⟩ := hkeys key hkey
    exact get_eq_of_fits hproper hchecked htyped hg hplain fun _ hw => Scalar.check_self hw

theorem agree_of_kept (h : Kept display e e')
    (hspi : ∀ fields, e = .obj fields → fields.lookup "spi_config" = none) : Agree e e' where
  driver := agreeOn_driverKeys h
  settings := by
    -- Of all fields only these settings have two names, and the shorter one is not used.
    have hspiField : ⟨"spi_config", some "4_wire_spi_config", .settings spiSettings⟩ ∈
        display.fields := by simp [display, entry]
    have hi2cField : .plain "i2c_config" (.settings i2cSettings) ∈ display.fields := by
      simp [display, entry]
    have hserial := settings_of_kept h hspiField rfl (by decide) (fun fields he _ => hspi fields he)
      serial.fields (by decide)
    have hbus := settings_of_kept h hi2cField rfl (by decide) (fun _ _ hnone => hnone)
      bus.fields (by decide)
    exact List.forall_mem_cons.2 ⟨fun _ => hserial, List.forall_mem_singleton.2 fun _ => hbus⟩

end Display

/-! ### Descriptions -/

namespace Description

variable {v d : Value} {k : Kind} {R : Value → Value → Prop}

lemma forall₂_slots (h : ∀ key ∈ k.keys, List.Forall₂ R (listed v key) (listed d key)) :
    List.Forall₂ R (slots v k) (slots d k) := by
  have hlisted := forall₂_flatMap h
  rw [slots, slots]
  split_ifs
  · exact List.forall₂_take _ hlisted
  · exact hlisted

/-- Checking changes neither the lengths of lists nor the labels in them. -/
lemma lists_of_normalize (h : normalizeHardware v = .ok d) {key : String}
    {record : Record EntryType} (hkey : IsListedAs key record) : Lists v key ∧ Lists d key ∧
      List.Forall₂ (Value.AgreeOn ["labels"]) (listed v key) (listed d key) := by
  obtain ⟨hlists, hentries⟩ := listed_of_normalize h hkey
  refine ⟨hlists, lists_of_isListedAs (isDescription_of_normalize h) hkey, ?_⟩
  refine hentries.imp fun e e' he name hname => ?_
  obtain rfl := List.mem_singleton.1 hname
  exact labels_of_normalize hkey he

/-- The record of the entries of displays. -/
lemma eq_display_of_isListedAs {record : Record EntryType}
    (hkey : IsListedAs "oled_displays" record) : record = display := by
  have hall : ∀ f ∈ hardware.fields, f.spelling = "oled_displays" → f.type = display := by
    simp [hardware, Schema.Field.plain, Schema.Field.spelling]
  exact hall _ hkey rfl

section Typed

variable (h : normalizeHardware v = .ok d) (htyped : IsTyped v)
include h htyped

/-- What holds of every entry and what a check makes of it holds along the entries of a kind. -/
lemma forall₂_slots_of_kept (hR : ∀ key ∈ k.keys, ∀ record, IsListedAs key record →
    ∀ e ∈ listed v key, ∀ e', Kept record e e' → R e e') :
    List.Forall₂ R (slots v k) (slots d k) := by
  refine forall₂_slots fun key hkey => ?_
  obtain ⟨record, hrecord⟩ := exists_isListedAs hkey
  have hboth := (List.forall₂_and_left _ _).2 ⟨fun _ he => he, listed_kept h htyped hrecord⟩
  exact hboth.imp fun e e' he => hR key hkey record hrecord e he.1 e' he.2

lemma slots_agree_of_bank {b : Bank} (hb : k.bank? = some b) :
    List.Forall₂ (Value.AgreeOn b.readKeys) (slots v k) (slots d k) :=
  forall₂_slots_of_kept h htyped fun _ hkey _ hrecord _ _ _ he =>
    Kind.agreeOn_of_kept hb hkey hrecord he

lemma displays_agree (hspi : SpellsSettings v) :
    List.Forall₂ Display.Agree (slots v .oledDisplay) (slots d .oledDisplay) := by
  refine forall₂_slots_of_kept h htyped fun key hkey record hrecord e he e' hentry => ?_
  obtain rfl := List.mem_singleton.1 hkey
  rw [eq_display_of_isListedAs hrecord] at hentry
  exact Display.agree_of_kept hentry fun fields heq => hspi fields (heq ▸ he)

/-- No kind can tell the entries of a description from those that have been checked. -/
theorem agree_of_isTyped (hspi : SpellsSettings v) : Agree v d := by
  intro k
  have hlists : ∀ key ∈ k.keys, Lists v key := fun _ hkey =>
    let ⟨_, hrecord⟩ := exists_isListedAs hkey
    (listed_of_normalize h hrecord).1
  refine ⟨_, _, entriesOf_eq_slots hlists, entriesOf_eq (isDescription_of_normalize h) k, ?_⟩
  cases k with
  | oledDisplay => exact displays_agree h htyped hspi
  | cvOutput =>
    exact Kind.isEmpty_congr (R := fun _ _ => True)
      (forall₂_slots_of_kept h htyped fun _ _ _ _ _ _ _ _ => trivial)
  | gateOutput | midiHandler => trivial
  | _ => exact slots_agree_of_bank h htyped rfl

end Typed

end Description

/-! ### Headers -/

namespace Header

open Description

variable {v d : Value}

/-- A description of the declared types comes to the same whether it is checked or not: the same
header, counts of entries, members and notes. -/
theorem source_of_isTyped (h : normalizeHardware v = .ok d) (htyped : IsTyped v)
    (hspi : SpellsSettings v) :
    (∀ structName, ∃ text, source v structName = .ok text ∧ source d structName = .ok text) ∧
      (∃ counts, Description.counts v = .ok counts ∧ Description.counts d = .ok counts) ∧
      (∃ names, members v = .ok names ∧ members d = .ok names) ∧
      Notes.ofDescription v = Notes.ofDescription d := by
  have hd := isDescription_of_normalize h
  have hagree := agree_of_isTyped h htyped hspi
  obtain ⟨hobject, hobject'⟩ := isObject_of_normalize h
  have hlists : ∀ key ∈ entryKeys, Lists v key ∧ Lists d key ∧
      List.Forall₂ (Value.AgreeOn ["labels"]) (listed v key) (listed d key) := by
    intro key hkey
    obtain ⟨k, -, hkey⟩ := List.mem_flatMap.1 hkey
    obtain ⟨record, hrecord⟩ := exists_isListedAs hkey
    exact lists_of_normalize h hrecord
  have hcounts : Description.counts v = Description.counts d := by
    rw [counts_eq_of_lists fun key hkey => (hlists key hkey).1,
      counts_eq_of_lists fun key hkey => (hlists key hkey).2.1]
    refine congrArg Except.ok (List.map_congr_left fun key hkey => ?_)
    rw [(hlists key hkey).2.2.length_eq]
  have hmembers := members_congr hobject hobject' hagree
  have htally : Notes.tally v = Notes.tally d :=
    Notes.tally_congr fun key hkey =>
      let ⟨_, hrecord⟩ := Notes.exists_isListedAs_of_mem_labelKeys hkey
      lists_of_normalize h hrecord
  obtain ⟨hcv, hcv', hcvEntries⟩ := hlists "cv_outputs" (by decide)
  refine ⟨fun structName => ?_, ?_, ?_, ?_⟩
  · have hsource := source_eq hd structName
    exact ⟨_, (source_congr hobject hobject' hagree structName).trans hsource, hsource⟩
  · exact ⟨_, hcounts.trans (counts_eq hd), counts_eq hd⟩
  · exact ⟨_, hmembers.trans (members_eq hd), members_eq hd⟩
  · exact Notes.ofDescription_congr hcv hcv' hcvEntries.length_eq hmembers htally

/-- A CV input and a display with nulls, with fields that are not declared, and in another order
than that of the declarations. -/
theorem source_of_isTyped_display :
    let v : Value := .obj [("revision", .int 2), ("switches", .null),
      ("oled_displays", .arr [.obj [("transport", .str "4WireSpi"), ("i2c_config", .null),
        ("4_wire_spi_config", .obj [("pin_reset", .int 30), ("pin_dc", .null)])]]),
      ("cv_inputs", .arr [.obj [("invert", .null), ("flip", .bool true), ("colour", .null),
        ("pin", .int 15), ("labels", .arr [.str "gain"])]])]
    let d : Value := .obj [
      ("cv_inputs", .arr [.obj [("labels", .arr [.str "gain"]), ("pin", .int 15),
        ("flip", .bool true)]]),
      ("oled_displays", .arr [.obj [("transport", .str "4WireSpi"),
        ("4_wire_spi_config", .obj [("pin_reset", .int 30)])]]),
      ("revision", .int 2)]
    let counts : List (String × ℕ) := [("analog_controls", 0), ("cv_inputs", 1), ("cv_outputs", 0),
      ("encoders", 0), ("gate_inputs", 0), ("gate_outputs", 0), ("leds", 0), ("midi_handlers", 0),
      ("oled_displays", 1), ("rgb_leds", 0), ("switches", 0)]
    let names := ["seed", "controls", "display", "Init", "ProcessAnalogControls",
      "ProcessDigitalControls", "ProcessAllControls", "UpdateLeds"]
    (normalizeHardware v = .ok d ∧ IsTyped v ∧ SpellsSettings v) ∧
    (∀ structName, ∃ text, source v structName = .ok text ∧ source d structName = .ok text) ∧
      (Description.counts v = .ok counts ∧ Description.counts d = .ok counts) ∧
      (members v = .ok names ∧ members d = .ok names) ∧
      Notes.ofDescription v = .ok [] ∧ Notes.ofDescription v = Notes.ofDescription d := by
  intro v d counts names
  have h : normalizeHardware v = .ok d := rfl
  have htyped : IsTyped v := by
    refine ⟨_, rfl, ?_⟩
    simp [hardware, OrNull, List.lookup_cons, Schema.Field.plain, Schema.Field.spelling, entry,
      display, EntryType.IsTyped, Scalar.Fits, ListFits, Record.Fits, switch, analogFields,
      spiSettings, i2cSettings, pinField, flagField, textField]
  have hspi : SpellsSettings v := by
    intro fields hmem
    have hlisted : Description.listed v "oled_displays" = [.obj [("transport", .str "4WireSpi"),
        ("i2c_config", .null),
        ("4_wire_spi_config", .obj [("pin_reset", .int 30), ("pin_dc", .null)])]] := rfl
    rw [hlisted, List.mem_singleton, Value.obj.injEq] at hmem
    rw [hmem]
    rfl
  obtain ⟨htext, ⟨counted, hcounted, hcounted'⟩, ⟨listed, hlisted, hlisted'⟩, hnotes⟩ :=
    source_of_isTyped h htyped hspi
  obtain rfl : counted = counts := Except.ok.inj (hcounted.symm.trans rfl)
  obtain rfl : listed = names := Except.ok.inj (hlisted.symm.trans rfl)
  exact ⟨⟨h, htyped, hspi⟩, htext, ⟨hcounted, hcounted'⟩, ⟨hlisted, hlisted'⟩, rfl, hnotes⟩

end Header

end ControlSurface
