import ControlSurface.Proofs.Failure
import ControlSurface.Proofs.Generator.Display

/-!
# Failures of generators

For which entries a kind fails in a phase. Banks look at labels when they are declared, and at
nothing but fields when they are brought up; displays look at the settings of their transport then.
-/

namespace ControlSurface

variable {entries : List Value}

lemma exists_mem_map_fst {α β : Type} {l : List (α × β)} {P : α → Prop} :
    (∃ p ∈ l, P p.1) ↔ ∃ a ∈ l.map Prod.fst, P a := by
  simp

lemma exists_mem_zipIdx {α : Type} {l : List α} {P : α → Prop} :
    (∃ p ∈ l.zipIdx, P p.1) ↔ ∃ a ∈ l, P a := by
  rw [exists_mem_map_fst, List.zipIdx_map_fst]

lemma perEntry_failsIff {P : Value → Prop} {lines : Value → ℕ → Except Fault (List String)}
    (h : ∀ e i, FailsIff (P e) (lines e i)) :
    FailsIff (∃ e ∈ entries, P e) (perEntry entries lines) :=
  ((FailsIff.mapM fun p _ => h p.1 p.2).map List.flatten).congr exists_mem_zipIdx

/-! ### Labels -/

namespace Label

/-- Whether an entry cannot be asked for its labels. -/
def IsMislabelled (e : Value) : Prop := ¬e.IsObject ∨ (e.field "labels").IsBare

lemma ofEntry_failsIff (e : Value) : FailsIff (IsMislabelled e) (ofEntry e) := by
  refine (get_failsIff e "labels").bind fun labels hlabels => ?_
  cases e with
  | obj fields =>
    cases hlabels
    exact Value.itemsOrNone_failsIff _
  | _ => cases hlabels

lemma references_failsIff (typeName arrayName : String) :
    FailsIff (∃ e ∈ entries, IsMislabelled e) (references typeName arrayName (.arr entries)) := by
  have hbound : FailsIff (∃ e ∈ entries, IsMislabelled e) (entries.zipIdx.mapM bindingsOf) :=
    (FailsIff.mapM fun p _ => (ofEntry_failsIff p.1).map _).congr exists_mem_zipIdx
  exact (hbound.map List.flatten).map _

end Label

/-! ### Banks -/

namespace Bank

lemma bringUpControls_failsIff :
    FailsIff (∃ e ∈ entries, ¬e.IsObject) (bringUpControls (.arr entries)) := by
  have hchannels : FailsIff (∃ e ∈ entries, ¬e.IsObject) (perEntry entries bringUpChannel) :=
    perEntry_failsIff fun e i => (pinText_failsIff e "pin").map _
  have hcontrols : FailsIff (∃ e ∈ entries, ¬e.IsObject) (perEntry entries bringUpControl) := by
    refine perEntry_failsIff fun e i => (flagText_failsIff e "flip").bind_of_isObject ?_
    rintro fields rfl _
    exact ⟨_, rfl⟩
  rw [bringUpControls_arr]
  exact (hchannels.bind fun _ _ => hcontrols.map _).congr (or_self_iff)

/-- The fields of an entry are all that is looked at when its slot is brought up. -/
theorem bringUp_failsIff (b : Bank) :
    FailsIff (∃ e ∈ entries, ¬e.IsObject) (b.bringUp (.arr entries)) := by
  have hlines : FailsIff (∃ e ∈ entries, ¬e.IsObject) (b.bringUpLines (.arr entries)) := by
    cases b with
    | controls => exact bringUpControls_failsIff
    | gateInputs =>
      have hslots : FailsIff (∃ e ∈ entries, ¬e.IsObject) (perEntry entries bringUpGateInput) :=
        perEntry_failsIff fun e i => (pinText_failsIff e "pin").map _
      exact hslots.map _
    | encoders | leds | rgbLeds | switches =>
      refine perEntry_failsIff fun e i => (pinText_failsIff e _).bind_of_isObject ?_
      rintro fields rfl _
      exact ⟨_, rfl⟩
  exact hlines.map _

lemma declare_failsIff (b : Bank) :
    FailsIff (∃ e ∈ entries, Label.IsMislabelled e) (b.declare (.arr entries)) :=
  (Label.references_failsIff b.typeName b.arrayName).map _

end Bank

/-! ### Displays -/

namespace Display

/-- The transports that have settings, each with the key of them. -/
def transports : List (String × String) :=
  [("4WireSpi", "4_wire_spi_config"), ("I2c", "i2c_config")]

/-- Whether a display has something else than an object as the settings of its transport. -/
def IsMisconfigured (e : Value) : Prop :=
  ∃ p ∈ transports, e.field "transport" = .str p.1 ∧ (e.field p.2).truthy = true ∧
    ¬(e.field p.2).IsObject

/-- Whether some display before the first one that needs the header is no object. -/
def Stumbles : List Value → Prop
  | [] => False
  | e :: rest => ¬e.IsObject ∨ needsHeader e = .ok false ∧ Stumbles rest

lemma Stumbles.exists_mem (h : Stumbles entries) : ∃ e ∈ entries, ¬e.IsObject := by
  induction entries with
  | nil => exact h.elim
  | cons e rest ih =>
    rcases h with he | ⟨-, hrest⟩
    · exact ⟨e, List.mem_cons_self .., he⟩
    · obtain ⟨e', hmem, he'⟩ := ih hrest
      exact ⟨e', List.mem_cons_of_mem _ hmem, he'⟩

lemma driver_failsIff (e : Value) : FailsIff (¬e.IsObject) (driver e) := by
  refine (FailsIff.congr (FailsIff.mapM fun key _ => get_failsIff e key) ?_).map _
  simp

lemma drivers_failsIff : FailsIff (∃ e ∈ entries, ¬e.IsObject) (drivers (.arr entries)) :=
  FailsIff.mapM fun e _ => driver_failsIff e

lemma needsHeader_failsIff (e : Value) : FailsIff (¬e.IsObject) (needsHeader e) := by
  refine (get_failsIff e "driver").bind_of_isObject fun _ _ driver => ?_
  split <;> exact ⟨_, rfl⟩

lemma anyNeedsHeader_failsIff : FailsIff (Stumbles entries) (anyNeedsHeader entries) := by
  induction entries with
  | nil => exact FailsIff.ok false
  | cons e rest ih =>
    refine (needsHeader_failsIff e).bind fun needs hneeds => ?_
    rw [hneeds]
    cases needs with
    | true => exact (FailsIff.ok true).congr (by simp)
    | false => exact ih.congr (by simp)

lemma inclusions_failsIff : FailsIff (Stumbles entries) (inclusions (.arr entries)) :=
  anyNeedsHeader_failsIff.map _

lemma declare_failsIff : FailsIff (∃ e ∈ entries, ¬e.IsObject) (declare (.arr entries)) :=
  drivers_failsIff.map _

/-- Settings that do not count as present are as good as none. -/
lemma isObject_orElse_iff {v : Value} :
    ¬(v.orElse (.obj [])).IsObject ↔ v.truthy = true ∧ ¬v.IsObject := by
  rw [Value.orElse]
  split_ifs with htruthy
  · simp [htruthy]
  · simp [htruthy, Value.IsObject]

lemma spiLines_failsIff (target : String) (settings : Value) :
    FailsIff (¬settings.IsObject) (spiLines target settings) := by
  refine (pinText_failsIff settings "pin_dc").bind_of_isObject ?_
  rintro fields rfl _
  exact ⟨_, rfl⟩

lemma i2cLines_failsIff (target : String) (settings : Value) :
    FailsIff (¬settings.IsObject) (i2cLines target settings) := by
  refine (fieldText_failsIff settings "address").bind_of_isObject ?_
  rintro fields rfl _
  exact ⟨_, rfl⟩

lemma transportLines_failsIff (config : String) (e : Value) :
    FailsIff (¬e.IsObject ∨ IsMisconfigured e) (transportLines config e) := by
  refine (get_failsIff e "transport").bind fun transport htransport => ?_
  cases e with
  | obj fields =>
    obtain rfl : (Value.obj fields).field "transport" = transport := Except.ok.inj htransport
    set e := Value.obj fields
    unfold IsMisconfigured
    split
    · next heq =>
      refine (spiLines_failsIff _ _).congr ?_
      exact (isObject_orElse_iff (v := e.field "4_wire_spi_config")).trans
        (by simp [transports, heq])
    · next heq =>
      refine (i2cLines_failsIff _ _).congr ?_
      exact (isObject_orElse_iff (v := e.field "i2c_config")).trans (by simp [transports, heq])
    · next hspi hi2c =>
      have hother : e.field "transport" ≠ .str "4WireSpi" ∧ e.field "transport" ≠ .str "I2c" :=
        ⟨hspi, hi2c⟩
      exact (FailsIff.ok _).congr (by simp [transports, hother])
  | _ => cases htransport

/-- All displays have drivers, and the settings of their transports are looked at. -/
theorem bringUp_failsIff :
    FailsIff (∃ e ∈ entries, ¬e.IsObject ∨ IsMisconfigured e) (bringUp (.arr entries)) := by
  have hlines (names : List String) (hlength : entries.length ≤ names.length) :
      FailsIff (∃ e ∈ entries, ¬e.IsObject ∨ IsMisconfigured e)
        ((entries.zip names).zipIdx.mapM fun p => bringUpLines p.1.1 p.1.2 p.2) := by
    refine FailsIff.congr (FailsIff.mapM fun p _ => (transportLines_failsIff _ p.1.1).map _) ?_
    rw [exists_mem_zipIdx (P := fun p : Value × String => ¬p.1.IsObject ∨ IsMisconfigured p.1),
      exists_mem_map_fst (P := fun e => ¬e.IsObject ∨ IsMisconfigured e), List.map_fst_zip hlength]
  have hdrivers (names : List String) (h : drivers (.arr entries) = .ok names) :
      names = entries.map driverOf := by
    have hobject := drivers_failsIff.of_ok names h
    push Not at hobject
    exact (Except.ok.inj ((drivers_eq hobject).symm.trans h)).symm
  refine FailsIff.congr (drivers_failsIff.bind fun names h => (hlines names ?_).map _) ?_
  · rw [hdrivers names h, List.length_map]
  · refine ⟨?_, .inr⟩
    rintro (⟨e, he, hobject⟩ | h)
    · exact ⟨e, he, .inl hobject⟩
    · exact h

end Display

/-! ### Kinds -/

namespace Kind

/-- Whether a kind fails in a phase for some entries. -/
def Stumbles (k : Kind) (entries : List Value) : Phase → Prop
  | .inclusion => k = .oledDisplay ∧ Display.Stumbles entries
  | .declaration => k = .oledDisplay ∧ (∃ e ∈ entries, ¬e.IsObject) ∨
      k.bank?.isSome = true ∧ ∃ e ∈ entries, Label.IsMislabelled e
  | .initialization => k = .oledDisplay ∧ (∃ e ∈ entries, ¬e.IsObject ∨ Display.IsMisconfigured e) ∨
      k.bank?.isSome = true ∧ ∃ e ∈ entries, ¬e.IsObject
  | .processing => False

lemma whenPresent_failsIff {generate : Generator} {P : Value → Prop}
    (h : FailsIff (∃ e ∈ entries, P e) (generate (.arr entries))) :
    FailsIff (∃ e ∈ entries, P e) (whenPresent generate (.arr entries)) := by
  rw [whenPresent, Value.truthy_arr]
  cases entries with
  | nil => exact (FailsIff.ok []).congr (by simp)
  | cons e rest => exact h

lemma whenPresent_ok {generate : Generator} {lines : List String}
    (h : generate (.arr entries) = .ok lines) :
    FailsIff False (whenPresent generate (.arr entries)) := by
  rw [whenPresent_eq h]
  exact .ok _

/-- If there are no entries then there are no lines. -/
lemma whenPresent_yields {generate : Generator} {P : List String → Prop} {v : Value} (hnil : P [])
    (h : Yields P (generate v)) : Yields P (whenPresent generate v) := by
  unfold whenPresent
  split
  · exact h
  · exact Yields.ok hnil

/-- When a kind fails in a phase. -/
theorem fragmentLines_failsIff (k : Kind) (p : Phase) :
    FailsIff (k.Stumbles entries p) (k.fragmentLines p (.arr entries)) := by
  cases p with
  | inclusion =>
    by_cases hk : k = .oledDisplay
    · subst hk
      exact Display.inclusions_failsIff.congr (by simp [Stumbles])
    · rw [fragmentLines, generator?, if_neg hk]
      exact (FailsIff.ok []).congr (by simp [Stumbles, hk])
  | declaration =>
    cases k with
    | oledDisplay =>
      exact (whenPresent_failsIff Display.declare_failsIff).congr (by simp [Stumbles, bank?])
    | cvOutput | gateOutput | midiHandler =>
      exact (FailsIff.ok []).congr (by simp [Stumbles, bank?])
    | _ => exact (whenPresent_failsIff (Bank.declare_failsIff _)).congr (by simp [Stumbles, bank?])
  | initialization =>
    cases k with
    | oledDisplay =>
      exact (whenPresent_failsIff Display.bringUp_failsIff).congr (by simp [Stumbles, bank?])
    | cvOutput =>
      have hblock : FailsIff False (cvOutput.fragmentLines .initialization (.arr entries)) := by
        rw [fragmentLines, generator?, if_neg (by decide), if_pos rfl, Option.getD_some]
        exact whenPresent_ok rfl
      exact hblock.congr (by simp [Stumbles, bank?])
    | gateOutput | midiHandler => exact (FailsIff.ok []).congr (by simp [Stumbles, bank?])
    | _ => exact (whenPresent_failsIff (Bank.bringUp_failsIff _)).congr (by simp [Stumbles, bank?])
  | processing =>
    cases k with
    | analogControl | encoder | led | rgbLed | switch =>
      exact whenPresent_ok (Bank.serviceAll_eq _ _ entries)
    | _ => exact FailsIff.ok []

end Kind

end ControlSurface
