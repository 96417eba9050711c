import ControlSurface.Proofs.Header.Agreement

/-!
# What a header depends on

A header shows a few fields of the entries of a description and nothing else. Analog controls and CV
inputs are one list, wherever it is divided; of CV outputs only whether there are any is seen; gate
outputs, MIDI handlers and keys that list no peripherals are never looked at.
-/

namespace ControlSurface

variable {d d' : Value}

namespace Description

/-- Whether two descriptions show the same: their lists agree entry by entry on the fields that the
generators write, a missing field being the same as null. -/
structure ShownAlike (d d' : Value) : Prop where
  /-- The lists of a kind are one list, wherever it is divided. -/
  banks : ∀ k b, Kind.bank? k = some b → List.Forall₂ (Value.AgreeOn b.readKeys)
    (k.keys.flatMap (listed d)) (k.keys.flatMap (listed d'))
  displays : List.Forall₂ Display.Agree (listed d "oled_displays") (listed d' "oled_displays")
  outputs : listed d "cv_outputs" = [] ↔ listed d' "cv_outputs" = []

lemma Lists.isObject {key : String} (h : Lists d key) : d.IsObject := by
  cases d with
  | obj fields => exact ⟨fields, rfl⟩
  | _ => rcases h with ⟨hget, -⟩ | hget <;> cases hget

/-- No kind can tell the entries of descriptions apart that show the same. -/
lemma ShownAlike.agree_slots (h : ShownAlike d d') (k : Kind) :
    k.Agree (slots d k) (slots d' k) := by
  have hslots (hk : k ≠ .cvOutput) (d : Value) : slots d k = k.keys.flatMap (listed d) :=
    if_neg hk
  unfold Kind.Agree
  cases hb : k.bank? with
  | some b =>
    have hcv : k ≠ .cvOutput := by
      rintro rfl
      cases hb
    rw [hslots hcv, hslots hcv]
    exact h.banks k b hb
  | none =>
    cases k with
    | oledDisplay =>
      rw [hslots (by decide), hslots (by decide), Kind.keys, List.flatMap_singleton,
        List.flatMap_singleton]
      exact h.displays
    | cvOutput =>
      show (slots d .cvOutput).isEmpty = (slots d' .cvOutput).isEmpty
      rw [isEmpty_slots_cvOutput, isEmpty_slots_cvOutput, Bool.eq_iff_iff, List.isEmpty_iff,
        List.isEmpty_iff]
      exact h.outputs
    | gateOutput | midiHandler => trivial
    | _ => cases hb

end Description

namespace Header

open Description

/-- Descriptions that show the same have the same header, whatever else they hold, and their structs
have the same members. -/
theorem source_eq_of_shownAlike (hd : ∀ key ∈ entryKeys, Lists d key)
    (hd' : ∀ key ∈ entryKeys, Lists d' key) (h : ShownAlike d d') :
    (∀ structName, source d structName = source d' structName) ∧
      ∃ names, members d = .ok names ∧ members d' = .ok names := by
  have hkeys {d : Value} (hd : ∀ key ∈ entryKeys, Lists d key) (k : Kind) :
      ∀ key ∈ k.keys, Lists d key :=
    fun key hkey => hd key (List.mem_flatMap.2 ⟨k, Kind.mem_all k, hkey⟩)
  have hagree : Agree d d' := fun k =>
    ⟨_, _, entriesOf_eq_slots (hkeys hd k), entriesOf_eq_slots (hkeys hd' k), h.agree_slots k⟩
  have hleds : "leds" ∈ entryKeys := by decide
  have hobject : d.IsObject := (hd _ hleds).isObject
  have hobject' : d'.IsObject := (hd' _ hleds).isObject
  have hmembers : members d = .ok (memberNames d) := by
    refine members_eq_of_lists ?_ (hkeys hd)
    obtain ⟨fields, rfl⟩ := hobject
    exact orElse_obj fields
  exact ⟨source_congr hobject hobject' hagree, _, hmembers,
    (members_congr hobject hobject' hagree).symm.trans hmembers⟩

/-- A knob and a CV input that come in one list or in two, and a display on the two-wire bus that
also has settings for the other transport. -/
theorem source_eq_of_shownAlike_split :
    let d : Value := .obj [
      ("analog_controls", .arr [
        .obj [("labels", .arr [.str "gain"]), ("pin", .int 15), ("colour", .str "red")],
        .obj [("pin", .str "A1"), ("flip", .bool true)]]),
      ("cv_outputs", .arr [.obj [("pin", .int 22)]]),
      ("oled_displays", .arr [.obj [("transport", .str "I2c"),
        ("i2c_config", .obj [("address", .int 60)]),
        ("4_wire_spi_config", .obj [("pin_dc", .int 9)])]])]
    let d' : Value := .obj [
      ("title", .str "Panel"), ("gate_outputs", .arr [.obj []]), ("midi_handlers", .null),
      ("cv_outputs", .arr [.obj [], .obj [("labels", .arr [.str "out"])], .obj []]),
      ("cv_inputs", .arr [.obj [("flip", .bool true), ("invert", .null), ("pin", .str "A1")]]),
      ("analog_controls", .arr [.obj [("pin", .int 15), ("labels", .arr [.str "gain"])]]),
      ("oled_displays", .arr [.obj [("i2c_config", .obj [("speed", .null), ("address", .int 60)]),
        ("4_wire_spi_config", .str "none"), ("transport", .str "I2c")]])]
    let names := ["seed", "controls", "display", "Init", "ProcessAnalogControls",
      "ProcessDigitalControls", "ProcessAllControls", "UpdateLeds"]
    ((∀ key ∈ entryKeys, Lists d key) ∧ (∀ key ∈ entryKeys, Lists d' key) ∧ ShownAlike d d') ∧
    (∀ structName, source d structName = source d' structName) ∧
      members d = .ok names ∧ members d' = .ok names := by
  intro d d' names
  have hd : ∀ key ∈ entryKeys, Lists d key := by
    simp [entryKeys, Kind.all, Kind.keys, Description.Lists, listed, d, List.lookup_cons]
  have hd' : ∀ key ∈ entryKeys, Lists d' key := by
    simp [entryKeys, Kind.all, Kind.keys, Description.Lists, listed, d', List.lookup_cons]
  have h : ShownAlike d d' := by
    refine ⟨?_, ?_, ?_⟩
    · intro k b hb
      cases k <;> cases hb <;>
        simp [Kind.keys, listed, d, d', List.lookup_cons, Value.AgreeOn, Bank.readKeys,
          Bank.writtenKeys, Bank.flagKeys]
    · refine .cons ⟨by simp [Value.AgreeOn, Display.driverKeys, List.lookup_cons], ?_⟩ .nil
      intro t ht hname
      rcases List.mem_cons.1 ht with rfl | ht
      · simp [Display.serial] at hname
      · obtain rfl := List.mem_singleton.1 ht
        refine ⟨_, _, rfl, rfl, ?_⟩
        simp [Value.AgreeOn, Display.bus, List.lookup_cons, Value.orElse, Value.truthy]
    · simp [listed, d, d', List.lookup_cons]
  obtain ⟨hsource, listed, hlisted, hlisted'⟩ := source_eq_of_shownAlike hd hd' h
  obtain rfl : listed = names := Except.ok.inj (hlisted.symm.trans rfl)
  exact ⟨⟨hd, hd', h⟩, hsource, hlisted, hlisted'⟩

end Header

end ControlSurface
