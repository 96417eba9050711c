import ControlSurface.Header
import ControlSurface.Proofs.Generator.Failure

/-!
# Failures of the header

What keeps a header from being generated. Nobody has checked the description: its lists may be no
lists, its entries no objects. All that matters is found where entries are listed, where labels
stand, and where a display has the settings of its transport; everything else may be anything.
-/

namespace ControlSurface

variable {d : Value} {k : Kind} {p : Phase}

/-! ### What values hold -/

namespace Value

variable {v e : Value} {key : String}

lemma isBare_iff : v.IsBare ↔ v.truthy = true ∧ v.shape ∉ [.arr, .str, .obj] := by
  cases v <;> simp [IsBare, items?, shape]

lemma lookup_of_truthy {fields : List (String × Value)}
    (h : ((Value.obj fields).field key).truthy = true) :
    fields.lookup key = some ((Value.obj fields).field key) := by
  refine lookup_of_field rfl fun hnull => ?_
  rw [hnull] at h
  cases h

/-- What is held counts as present. -/
lemma truthy_of_mem_contents (h : e ∈ v.contents) : v.truthy = true := by
  by_contra htruthy
  rw [contents, orElse, if_neg htruthy] at h
  exact absurd h List.not_mem_nil

/-- Only lists hold objects. -/
lemma exists_eq_arr (h : e ∈ v.contents) (he : e.IsObject) :
    ∃ items, v = .arr items ∧ e ∈ items := by
  have htruthy := truthy_of_mem_contents h
  rw [contents, orElse, if_pos htruthy] at h
  obtain ⟨fields, rfl⟩ := he
  cases v with
  | arr items => exact ⟨items, rfl, h⟩
  | str s => simp [items?] at h
  | obj fields => simp [items?] at h
  | _ => exact absurd h List.not_mem_nil

/-- What counts as present, but is no list of objects, holds nothing or something else. -/
lemma isBare_or_exists (htruthy : v.truthy = true) (h : ¬Schema.ListFits IsObject v) :
    v.IsBare ∨ ∃ e ∈ v.contents, ¬e.IsObject := by
  cases v with
  | arr items =>
    rw [contents_arr]
    by_contra hall
    push Not at hall
    exact h ⟨items, rfl, hall.2⟩
  | str s =>
    have hnonempty : s.toList ≠ [] := by simpa [truthy] using htruthy
    obtain ⟨c, rest, hc⟩ := List.exists_cons_of_ne_nil hnonempty
    refine .inr ⟨.str c.toString, ?_, by simp [IsObject]⟩
    simp [contents, orElse, htruthy, items?, hc]
  | obj fields =>
    have hnonempty : fields ≠ [] := by simpa [truthy] using htruthy
    obtain ⟨f, rest, rfl⟩ := List.exists_cons_of_ne_nil hnonempty
    exact .inr ⟨.str f.1, List.mem_cons_self .., by simp [IsObject]⟩
  | _ => exact .inl ⟨htruthy, rfl⟩

end Value

/-! ### Entries -/

namespace Description

/-- Whether the entries under a key cannot be collected. -/
def IsUnlisted (d : Value) (key : String) : Prop := ¬d.IsObject ∨ (d.field key).IsBare

/-- What is taken for the entries of a kind, whatever the description holds. -/
def gathered (d : Value) (k : Kind) : List Value :=
  if k = .cvOutput then (k.keys.flatMap fun key => (d.field key).contents).take dacChannels
  else k.keys.flatMap fun key => (d.field key).contents

lemma entriesUnder_failsIff (d : Value) (key : String) :
    FailsIff (IsUnlisted d key) (entriesUnder d key) := by
  refine (get_failsIff d key).bind fun listed hlisted => ?_
  cases d with
  | obj fields =>
    cases hlisted
    exact Value.itemsOrNone_failsIff _
  | _ => cases hlisted

lemma entriesOf_failsIff (d : Value) (k : Kind) :
    FailsIff (∃ key ∈ k.keys, IsUnlisted d key) (entriesOf d k) :=
  (FailsIff.mapM fun key _ => entriesUnder_failsIff d key).map _

lemma eq_gathered {entries : List Value} (h : entriesOf d k = .ok entries) :
    entries = gathered d k := by
  have hlisted : k.keys.mapM (entriesUnder d) =
      .ok (k.keys.map fun key => (d.field key).contents) := by
    refine mapM_eq_ok fun key hkey => ?_
    have hfine : ¬IsUnlisted d key := fun hbad =>
      (entriesOf_failsIff d k).of_ok entries h ⟨key, hkey, hbad⟩
    obtain ⟨hobject, hbare⟩ := not_or.1 hfine
    rw [entriesUnder, Value.get_eq_field (not_not.1 hobject)]
    exact Value.itemsOrNone_eq hbare
  rw [entriesOf, hlisted] at h
  exact (Except.ok.inj h).symm

lemma exists_of_mem_gathered {e : Value} (he : e ∈ gathered d k) :
    ∃ key ∈ k.keys, e ∈ (d.field key).contents := by
  rw [gathered] at he
  split_ifs at he
  · exact List.mem_flatMap.1 (List.mem_of_mem_take he)
  · exact List.mem_flatMap.1 he

lemma mem_gathered {fields : List (String × Value)} {key : String} {e w : Value}
    (hk : k = .oledDisplay ∨ k.bank?.isSome = true) (hkey : key ∈ k.keys)
    (hw : fields.lookup key = some w) (he : e ∈ w.contents) : e ∈ gathered (.obj fields) k := by
  have hne : k ≠ .cvOutput := by
    rintro rfl
    simp [Kind.bank?] at hk
  rw [gathered, if_neg hne]
  exact List.mem_flatMap.2 ⟨key, hkey, by rwa [Value.field_of_lookup hw]⟩

/-- Whether a kind fails in a phase. -/
def Stumbles (d : Value) (p : Phase) (k : Kind) : Prop :=
  (∃ key ∈ k.keys, IsUnlisted d key) ∨ k.Stumbles (gathered d k) p

lemma selectedLines_failsIff (d : Value) (p : Phase) (selected : Kind → Bool) (k : Kind) :
    FailsIff (selected k = true ∧ Stumbles d p k)
      (selectedLines d (.ok p) (fun k => .ok (selected k)) k) := by
  unfold selectedLines
  dsimp only [bind, Except.bind]
  split_ifs with hselected
  · refine ((entriesOf_failsIff d k).bind fun entries hentries => ?_).congr
      (and_iff_right hselected).symm
    rw [eq_gathered hentries]
    exact k.fragmentLines_failsIff p
  · exact (FailsIff.ok []).congr (by simp [hselected])

lemma fragments_failsIff (d : Value) (p : Phase) (selected : Kind → Bool) :
    FailsIff (∃ k, selected k = true ∧ Stumbles d p k)
      (fragments d (.ok p) fun k => .ok (selected k)) := by
  have hlines := FailsIff.mapM fun k (_ : k ∈ Kind.all) => selectedLines_failsIff d p selected k
  exact ((hlines.map _).map _).congr (by simp [Kind.mem_all])

end Description

namespace Header

lemma phaseFragments_failsIff (d : Value) (p : Phase) :
    FailsIff (∃ k, Description.Stumbles d p k) (phaseFragments d p) :=
  (Description.fragments_failsIff d p fun _ => true).congr (by simp)

lemma dutyLines_failsIff (d : Value) (duty : Duty) :
    FailsIff (∃ k, duty.kinds.contains k = true ∧ Description.Stumbles d .processing k)
      (dutyLines d duty) :=
  (Description.fragments_failsIff d .processing fun k => duty.kinds.contains k).map _

/-- A header fails if some kind does in some phase. What is serviced in every tick has been listed
for the phases before, and does not fail by itself. -/
lemma source_failsIff (d : Value) (structName : String) :
    FailsIff (∃ p k, Description.Stumbles (d.orElse (.obj [])) p k) (source d structName) := by
  set d' := d.orElse (.obj []) with hd'
  have hcontrols := FailsIff.mapM fun duty (_ : duty ∈ controlDuties) => dutyLines_failsIff d' duty
  have hlines : FailsIff _ (lines d structName) :=
    (phaseFragments_failsIff d' .inclusion).bind fun _ _ =>
      (phaseFragments_failsIff d' .declaration).bind fun _ _ =>
      (phaseFragments_failsIff d' .initialization).bind fun _ _ =>
      hcontrols.bind fun _ _ => (dutyLines_failsIff d' lightDuty).map _
  refine (hlines.map _).congr ⟨?_, ?_⟩
  · rintro (⟨k, h⟩ | ⟨k, h⟩ | ⟨k, h⟩ | ⟨_, -, k, -, h⟩ | ⟨k, -, h⟩) <;> exact ⟨_, k, h⟩
  · rintro ⟨p, k, h⟩
    cases p with
    | inclusion => exact .inl ⟨k, h⟩
    | declaration => exact .inr (.inl ⟨k, h⟩)
    | initialization => exact .inr (.inr (.inl ⟨k, h⟩))
    | processing => exact .inl ⟨k, .inl (h.resolve_right id)⟩

/-! ### What obstructs a header -/

/-- The keys under which a text or an object may stand for a list, since no entry is looked at. -/
def looseKeys : List String := ["cv_outputs", "gate_outputs", "midi_handlers"]

/-- Whether something keeps the header of a value from being generated. -/
inductive Obstructed : Value → Prop
  | notObject {d : Value} (htruthy : d.truthy = true) (hobject : ¬d.IsObject) : Obstructed d
  | notContainer {fields : List (String × Value)} {key : String} {w : Value}
      (hkey : key ∈ looseKeys) (hw : fields.lookup key = some w) (htruthy : w.truthy = true)
      (hshape : w.shape ∉ [.arr, .str, .obj]) : Obstructed (.obj fields)
  | notObjects {fields : List (String × Value)} {key : String} {w : Value}
      (hkey : key ∈ entryKeys) (hstrict : key ∉ looseKeys) (hw : fields.lookup key = some w)
      (htruthy : w.truthy = true) (hentries : ¬Schema.ListFits Value.IsObject w) :
      Obstructed (.obj fields)
  | labels {fields entry : List (String × Value)} {key : String} {entries : List Value} {w : Value}
      (hkey : key ∈ labelKeys) (hentries : fields.lookup key = some (.arr entries))
      (hentry : .obj entry ∈ entries) (hw : entry.lookup "labels" = some w)
      (htruthy : w.truthy = true) (hshape : w.shape ∉ [.arr, .str, .obj]) :
      Obstructed (.obj fields)
  | settings {fields display : List (String × Value)} {displays : List Value}
      {transport key : String} {w : Value}
      (htransports : (transport, key) ∈ Display.transports)
      (hdisplays : fields.lookup "oled_displays" = some (.arr displays))
      (hdisplay : .obj display ∈ displays)
      (htransport : display.lookup "transport" = some (.str transport))
      (hw : display.lookup key = some w) (htruthy : w.truthy = true) (hobject : ¬w.IsObject) :
      Obstructed (.obj fields)

lemma Obstructed.truthy (h : Obstructed d) : d.truthy = true := by
  have hfields {fields : List (String × Value)} {key : String} {w : Value}
      (hw : fields.lookup key = some w) : (Value.obj fields).truthy = true := by
    cases fields with
    | nil => cases hw
    | cons => rfl
  cases h with
  | notObject htruthy => exact htruthy
  | notContainer _ hw => exact hfields hw
  | notObjects _ _ hw => exact hfields hw
  | labels _ hentries => exact hfields hentries
  | settings _ hdisplays => exact hfields hdisplays

section Object

variable {fields : List (String × Value)} {e : Value}

/-- The kinds whose entries are looked at, and the keys of them. -/
lemma strict_keys : ∀ k : Kind, k = .oledDisplay ∨ k.bank?.isSome = true → ∀ key ∈ k.keys,
    key ∈ entryKeys ∧ key ∉ looseKeys := by
  decide

lemma exists_strict_kind : ∀ key ∈ entryKeys, key ∉ looseKeys →
    ∃ k ∈ Kind.all, (k = .oledDisplay ∨ k.bank?.isSome = true) ∧ key ∈ k.keys := by
  decide

lemma label_keys : ∀ k : Kind, k.bank?.isSome = true → ∀ key ∈ k.keys, key ∈ labelKeys := by
  decide

lemma exists_bank_kind : ∀ key ∈ labelKeys,
    ∃ k ∈ Kind.all, k.bank?.isSome = true ∧ key ∈ k.keys := by
  decide

lemma exists_kind : ∀ key ∈ looseKeys, ∃ k ∈ Kind.all, key ∈ k.keys := by
  decide

lemma obstructed_of_isBare {key : String} (hkey : key ∈ k.keys)
    (h : ((Value.obj fields).field key).IsBare) : Obstructed (.obj fields) := by
  have hw := Value.lookup_of_truthy h.1
  have hshape := (Value.isBare_iff.1 h).2
  by_cases hloose : key ∈ looseKeys
  · exact .notContainer hloose hw h.1 hshape
  · refine .notObjects (List.mem_flatMap.2 ⟨k, Kind.mem_all k, hkey⟩) hloose hw h.1 ?_
    rintro ⟨items, hitems, -⟩
    rw [hitems] at hshape
    exact hshape (List.mem_cons_self ..)

lemma obstructed_of_mem_gathered (hk : k = .oledDisplay ∨ k.bank?.isSome = true)
    (he : e ∈ Description.gathered (.obj fields) k) (hobject : ¬e.IsObject) :
    Obstructed (.obj fields) := by
  obtain ⟨key, hkey, hheld⟩ := Description.exists_of_mem_gathered he
  obtain ⟨hlisted, hstrict⟩ := strict_keys k hk key hkey
  have htruthy := Value.truthy_of_mem_contents hheld
  refine .notObjects hlisted hstrict (Value.lookup_of_truthy htruthy) htruthy ?_
  rintro ⟨items, hitems, hobjects⟩
  rw [hitems, Value.contents_arr] at hheld
  exact hobject (hobjects e hheld)

lemma obstructed_of_isMislabelled (hk : k.bank?.isSome = true)
    (he : e ∈ Description.gathered (.obj fields) k) (h : Label.IsMislabelled e) :
    Obstructed (.obj fields) := by
  by_cases hobject : e.IsObject
  · have hbare := h.resolve_left (not_not.2 hobject)
    obtain ⟨key, hkey, hheld⟩ := Description.exists_of_mem_gathered he
    obtain ⟨items, hitems, hmem⟩ := Value.exists_eq_arr hheld hobject
    have hlookup := Value.lookup_of_truthy (Value.truthy_of_mem_contents hheld)
    rw [hitems] at hlookup
    obtain ⟨entry, rfl⟩ := hobject
    exact .labels (label_keys k hk key hkey) hlookup hmem (Value.lookup_of_truthy hbare.1)
      hbare.1 (Value.isBare_iff.1 hbare).2
  · exact obstructed_of_mem_gathered (.inr hk) he hobject

lemma obstructed_of_isMisconfigured (he : e ∈ Description.gathered (.obj fields) .oledDisplay)
    (h : Display.IsMisconfigured e) : Obstructed (.obj fields) := by
  by_cases hobject : e.IsObject
  · obtain ⟨⟨transport, key⟩, hmem, htransport, htruthy, hsettings⟩ := h
    obtain ⟨listKey, hkey, hheld⟩ := Description.exists_of_mem_gathered he
    obtain rfl : listKey = "oled_displays" := List.mem_singleton.1 hkey
    obtain ⟨items, hitems, hdisplay⟩ := Value.exists_eq_arr hheld hobject
    have hlookup := Value.lookup_of_truthy (Value.truthy_of_mem_contents hheld)
    rw [hitems] at hlookup
    obtain ⟨display, rfl⟩ := hobject
    exact .settings hmem hlookup hdisplay (Value.lookup_of_field htransport Value.noConfusion)
      (Value.lookup_of_truthy htruthy) htruthy hsettings
  · exact obstructed_of_mem_gathered (.inl rfl) he hobject

/-- Whatever makes a kind fail is told by what the description holds. -/
lemma obstructed_of_stumbles (h : Description.Stumbles (.obj fields) p k) :
    Obstructed (.obj fields) := by
  rcases h with ⟨key, hkey, hobject | hbare⟩ | h
  · exact absurd ⟨fields, rfl⟩ hobject
  · exact obstructed_of_isBare hkey hbare
  · cases p with
    | inclusion =>
      obtain ⟨rfl, hstumbles⟩ := h
      obtain ⟨e, he, hobject⟩ := hstumbles.exists_mem
      exact obstructed_of_mem_gathered (.inl rfl) he hobject
    | declaration =>
      rcases h with ⟨hk, e, he, hobject⟩ | ⟨hk, e, he, hlabels⟩
      · exact obstructed_of_mem_gathered (.inl hk) he hobject
      · exact obstructed_of_isMislabelled hk he hlabels
    | initialization =>
      rcases h with ⟨rfl, e, he, hobject | hsettings⟩ | ⟨hk, e, he, hobject⟩
      · exact obstructed_of_mem_gathered (.inl rfl) he hobject
      · exact obstructed_of_isMisconfigured he hsettings
      · exact obstructed_of_mem_gathered (.inr hk) he hobject
    | processing => exact h.elim

/-- Whatever obstructs a header makes some kind fail. -/
lemma exists_stumbles (h : Obstructed (.obj fields)) :
    ∃ p k, Description.Stumbles (.obj fields) p k := by
  cases h with
  | notObject _ hobject => exact absurd ⟨fields, rfl⟩ hobject
  | notContainer hkey hw htruthy hshape =>
    obtain ⟨k, -, hk⟩ := exists_kind _ hkey
    refine ⟨.inclusion, k, .inl ⟨_, hk, .inr ?_⟩⟩
    rw [Value.field_of_lookup hw]
    exact Value.isBare_iff.2 ⟨htruthy, hshape⟩
  | notObjects hkey hstrict hw htruthy hentries =>
    obtain ⟨k, -, hk, hkey⟩ := exists_strict_kind _ hkey hstrict
    refine ⟨.declaration, k, ?_⟩
    rcases Value.isBare_or_exists htruthy hentries with hbare | ⟨e, he, hobject⟩
    · exact .inl ⟨_, hkey, .inr (by rwa [Value.field_of_lookup hw])⟩
    · have hgathered := Description.mem_gathered hk hkey hw he
      rcases hk with hk | hk
      · exact .inr (.inl ⟨hk, e, hgathered, hobject⟩)
      · exact .inr (.inr ⟨hk, e, hgathered, .inl hobject⟩)
  | labels hkey hentries hentry hw htruthy hshape =>
    obtain ⟨k, -, hk, hkey⟩ := exists_bank_kind _ hkey
    have hgathered := Description.mem_gathered (.inr hk) hkey hentries
      (by rwa [Value.contents_arr])
    refine ⟨.declaration, k, .inr (.inr ⟨hk, _, hgathered, .inr ?_⟩)⟩
    rw [Value.field_of_lookup hw]
    exact Value.isBare_iff.2 ⟨htruthy, hshape⟩
  | settings htransports hdisplays hdisplay htransport hw htruthy hobject =>
    have hgathered := Description.mem_gathered (.inl rfl) (List.mem_singleton_self _) hdisplays
      (by rwa [Value.contents_arr])
    refine ⟨.initialization, .oledDisplay, .inr (.inl ⟨rfl, _, hgathered, .inr ?_⟩)⟩
    refine ⟨_, htransports, Value.field_of_lookup htransport, ?_⟩
    rw [Value.field_of_lookup hw]
    exact ⟨htruthy, hobject⟩

end Object

/-- When exactly a header cannot be generated, and that it is always for a mismatch. -/
theorem source_fails_iff (d : Value) (structName : String) :
    ((∃ fault, source d structName = .error fault) ↔ Obstructed d) ∧
      ∀ fault, source d structName = .error fault → fault.IsMismatch := by
  have hsource := source_failsIff d structName
  refine ⟨hsource.exists_error_iff.trans ?_, fun fault hfault => (hsource.of_error fault hfault).2⟩
  have hobject (fields : List (String × Value)) :
      (∃ p k, Description.Stumbles (.obj fields) p k) ↔ Obstructed (.obj fields) :=
    ⟨fun ⟨_, _, h⟩ => obstructed_of_stumbles h, exists_stumbles⟩
  by_cases htruthy : d.truthy = true
  · rw [Value.orElse, if_pos htruthy]
    by_cases hd : d.IsObject
    · obtain ⟨fields, rfl⟩ := hd
      exact hobject fields
    · have hkey : "encoders" ∈ Kind.encoder.keys := by decide
      exact iff_of_true ⟨.inclusion, .encoder, .inl ⟨_, hkey, .inl hd⟩⟩ (.notObject htruthy hd)
  · rw [Value.orElse, if_neg htruthy, hobject]
    exact iff_of_false (fun h => Bool.false_ne_true h.truthy) fun h => htruthy h.truthy

end Header

end ControlSurface
