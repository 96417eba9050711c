import ControlSurface.Proofs.Generator.Fragment
import ControlSurface.Proofs.Members
import Mathlib.Data.List.Forall2

/-!
# Agreement of entries

A generator cannot tell two entries apart that agree on the fields it reads. So what a kind
contributes to a phase is the same for lists of entries that agree one by one, whether it comes out
or fails. A field that is missing and one that is null are the same here.
-/

namespace ControlSurface

variable {entries entries' : List Value} {e e' : Value}

/-- Whether two values cannot be told apart by the fields of some names. -/
def Value.AgreeOn (keys : List String) (v v' : Value) : Prop := ∀ key ∈ keys, v.get key = v'.get key

lemma Value.AgreeOn.mono {keys keys' : List String} {v v' : Value} (h : v.AgreeOn keys v')
    (hsub : keys' ⊆ keys) : v.AgreeOn keys' v' :=
  fun key hkey => h key (hsub hkey)

/-! ### Passes over two lists -/

section Pass

variable {ε α β γ : Type} {R : α → α → Prop} {l l' : List α}

lemma mapM_congr {f g : α → Except ε β} (h : List.Forall₂ (fun a a' => f a = g a') l l') :
    l.mapM f = l'.mapM g := by
  induction h with
  | nil => rfl
  | cons hhead _ ih => rw [List.mapM_cons, List.mapM_cons, hhead, ih]

lemma foldlM_congr {f g : β → α → Except ε β}
    (h : List.Forall₂ (fun a a' => ∀ b, f b a = g b a') l l') (b : β) :
    l.foldlM f b = l'.foldlM g b := by
  induction h generalizing b with
  | nil => rfl
  | cons hhead _ ih =>
    rw [List.foldlM_cons, List.foldlM_cons, hhead]
    exact bind_congr fun b => ih b

lemma forall₂_zipIdx (h : List.Forall₂ R l l') (n : ℕ) :
    List.Forall₂ (fun p p' => R p.1 p'.1 ∧ p.2 = p'.2) (l.zipIdx n) (l'.zipIdx n) := by
  induction h generalizing n with
  | nil => exact .nil
  | cons hhead _ ih => exact .cons ⟨hhead, rfl⟩ (ih (n + 1))

lemma forall₂_zip (h : List.Forall₂ R l l') (m : List β) :
    List.Forall₂ (fun p p' => R p.1 p'.1 ∧ p.2 = p'.2) (l.zip m) (l'.zip m) := by
  induction h generalizing m with
  | nil => exact .nil
  | cons hhead _ ih =>
    cases m with
    | nil => exact .nil
    | cons b m => exact .cons ⟨hhead, rfl⟩ (ih m)

lemma forall₂_flatMap {S : β → β → Prop} {f g : α → List β}
    (h : ∀ a ∈ l, List.Forall₂ S (f a) (g a)) : List.Forall₂ S (l.flatMap f) (l.flatMap g) := by
  induction l with
  | nil => exact .nil
  | cons a l ih =>
    obtain ⟨ha, hl⟩ := List.forall_mem_cons.1 h
    exact List.rel_append ha (ih hl)

end Pass

/-! ### Fields -/

section Field

variable {key : String} (h : e.get key = e'.get key)
include h

lemma fieldText_congr : fieldText e key = fieldText e' key := by
  unfold fieldText
  rw [h]

lemma flagText_congr : flagText e key = flagText e' key := by
  unfold flagText
  rw [h]

lemma pinText_congr : pinText e key = pinText e' key := by
  unfold pinText
  rw [fieldText_congr h]

end Field

lemma perEntry_congr {lines : Value → ℕ → Except Fault (List String)}
    (h : List.Forall₂ (fun e e' => ∀ i, lines e i = lines e' i) entries entries') :
    perEntry entries lines = perEntry entries' lines := by
  have hlines : entries.zipIdx.mapM (fun p => lines p.1 p.2) =
      entries'.zipIdx.mapM fun p => lines p.1 p.2 :=
    mapM_congr ((forall₂_zipIdx h 0).imp fun p p' ⟨hp, hi⟩ => by rw [hp, hi])
  rw [perEntry_eq_mapM, perEntry_eq_mapM, hlines]

/-! ### Banks -/

namespace Bank

/-- The fields that are written as flags into code. -/
def flagKeys : Bank → List String
  | .controls => ["flip", "invert"]
  | .leds | .rgbLeds => ["invert"]
  | _ => []

/-- The fields that a bank reads. -/
def readKeys (b : Bank) : List String := "labels" :: b.writtenKeys ++ b.flagKeys

variable {b : Bank}

lemma references_congr (typeName arrayName : String)
    (h : List.Forall₂ (Value.AgreeOn ["labels"]) entries entries') :
    Label.references typeName arrayName (.arr entries) =
      Label.references typeName arrayName (.arr entries') := by
  have hbound : entries.zipIdx.mapM Label.bindingsOf = entries'.zipIdx.mapM Label.bindingsOf := by
    refine mapM_congr ((forall₂_zipIdx h 0).imp fun p p' ⟨hp, hi⟩ => ?_)
    rw [Label.bindingsOf, Label.bindingsOf, Label.ofEntry, Label.ofEntry,
      hp "labels" (List.mem_singleton_self _), hi]
  rw [Label.references, Label.references, Label.bindings_arr, Label.bindings_arr, hbound]

lemma declare_congr (b : Bank) (h : List.Forall₂ (Value.AgreeOn b.readKeys) entries entries') :
    b.declare (.arr entries) = b.declare (.arr entries') := by
  have hlabels : List.Forall₂ (Value.AgreeOn ["labels"]) entries entries' :=
    h.imp fun _ _ he => he.mono (by simp [readKeys])
  rw [declare, declare, Value.length_arr, Value.length_arr, h.length_eq,
    references_congr _ _ hlabels]

lemma bringUpControls_congr
    (h : List.Forall₂ (Value.AgreeOn (readKeys .controls)) entries entries') :
    bringUpControls (.arr entries) = bringUpControls (.arr entries') := by
  have hchannels : perEntry entries bringUpChannel = perEntry entries' bringUpChannel := by
    refine perEntry_congr (h.imp fun e e' he i => ?_)
    unfold bringUpChannel
    rw [pinText_congr (he "pin" (by decide))]
  have hcontrols : perEntry entries bringUpControl = perEntry entries' bringUpControl := by
    refine perEntry_congr (h.imp fun e e' he i => ?_)
    unfold bringUpControl
    rw [flagText_congr (he "flip" (by decide)), flagText_congr (he "invert" (by decide))]
  rw [bringUpControls_arr, bringUpControls_arr, hchannels, hcontrols, h.length_eq]

theorem bringUp_congr (b : Bank) (h : List.Forall₂ (Value.AgreeOn b.readKeys) entries entries') :
    b.bringUp (.arr entries) = b.bringUp (.arr entries') := by
  have hlines : b.bringUpLines (.arr entries) = b.bringUpLines (.arr entries') := by
    cases b with
    | controls => exact bringUpControls_congr h
    | encoders =>
      refine perEntry_congr (h.imp fun e e' he i => ?_)
      unfold bringUpEncoder
      rw [pinText_congr (he "pin_a" (by decide)), pinText_congr (he "pin_b" (by decide)),
        pinText_congr (he "pin_switch" (by decide))]
    | gateInputs =>
      have hslots : perEntry entries bringUpGateInput = perEntry entries' bringUpGateInput := by
        refine perEntry_congr (h.imp fun e e' he i => ?_)
        unfold bringUpGateInput
        rw [pinText_congr (he "pin" (by decide))]
      exact congrArg (fun slots => do return "dsy_gpio_pin gate_input_pin;" :: (← slots)) hslots
    | leds =>
      refine perEntry_congr (h.imp fun e e' he i => ?_)
      unfold bringUpLed
      rw [pinText_congr (he "pin" (by decide)), flagText_congr (he "invert" (by decide))]
    | rgbLeds =>
      refine perEntry_congr (h.imp fun e e' he i => ?_)
      unfold bringUpRgbLed
      rw [pinText_congr (he "pin_r" (by decide)), pinText_congr (he "pin_g" (by decide)),
        pinText_congr (he "pin_b" (by decide)), flagText_congr (he "invert" (by decide))]
    | switches =>
      refine perEntry_congr (h.imp fun e e' he i => ?_)
      unfold bringUpSwitch
      rw [pinText_congr (he "pin" (by decide)), fieldText_congr (he "type" (by decide)),
        fieldText_congr (he "polarity" (by decide)), fieldText_congr (he "pull" (by decide))]
  rw [bringUp, bringUp, hlines]

lemma serviceAll_congr (b : Bank) (method : String) (h : entries.length = entries'.length) :
    b.serviceAll method (.arr entries) = b.serviceAll method (.arr entries') := by
  rw [serviceAll_eq, serviceAll_eq, h]

end Bank

/-! ### Displays -/

namespace Display

/-- A transport that displays are set up for: the key of its settings and the fields that these are
read for. -/
structure Transport where
  name : String
  key : String
  fields : List String
deriving DecidableEq, Repr

/-- The four-wire serial transport. -/
def serial : Transport := ⟨"4WireSpi", "4_wire_spi_config", ["pin_dc", "pin_reset"]⟩

/-- The two-wire bus. -/
def bus : Transport :=
  ⟨"I2c", "i2c_config", ["address", "peripheral", "speed", "pin_sda", "pin_scl"]⟩

/-- Whether two displays cannot be told apart by their drivers, nor by the settings of the transport
that both of them name. -/
structure Agree (e e' : Value) : Prop where
  driver : e.AgreeOn driverKeys e'
  settings : ∀ t ∈ [serial, bus], e.get "transport" = .ok (.str t.name) → ∃ s s',
    settingsOf e t.key = .ok s ∧ settingsOf e' t.key = .ok s' ∧ s.AgreeOn t.fields s'

lemma driver_congr (h : e.AgreeOn driverKeys e') : Display.driver e = Display.driver e' := by
  have hparts : ["driver", "transport", "dimensions"].mapM e.get =
      ["driver", "transport", "dimensions"].mapM e'.get :=
    mapM_congr (List.forall₂_same.2 h)
  rw [Display.driver, Display.driver, hparts]

lemma drivers_congr (h : List.Forall₂ Agree entries entries') :
    drivers (.arr entries) = drivers (.arr entries') :=
  mapM_congr (h.imp fun _ _ he => driver_congr he.driver)

lemma needsHeader_congr (h : Agree e e') : needsHeader e = needsHeader e' := by
  unfold needsHeader
  rw [h.driver "driver" (by decide)]

lemma inclusions_congr (h : List.Forall₂ Agree entries entries') :
    inclusions (.arr entries) = inclusions (.arr entries') := by
  have hany : anyNeedsHeader entries = anyNeedsHeader entries' := by
    induction h with
    | nil => rfl
    | cons hhead _ ih => rw [anyNeedsHeader, anyNeedsHeader, needsHeader_congr hhead, ih]
  rw [inclusions, inclusions, Value.items_arr, Value.items_arr]
  dsimp only [bind, Except.bind]
  rw [hany]

lemma names_congr (h : entries.length = entries'.length) :
    names (.arr entries) = names (.arr entries') := by
  rw [names, names, Value.length_arr, Value.length_arr, h]

lemma declare_congr (h : List.Forall₂ Agree entries entries') :
    declare (.arr entries) = declare (.arr entries') := by
  rw [declare, declare, names_congr h.length_eq, drivers_congr h]

lemma spiLines_congr {s s' : Value} (h : s.AgreeOn serial.fields s') (target : String) :
    spiLines target s = spiLines target s' := by
  unfold spiLines
  rw [pinText_congr (h "pin_dc" (by decide)), pinText_congr (h "pin_reset" (by decide))]

lemma i2cLines_congr {s s' : Value} (h : s.AgreeOn bus.fields s') (target : String) :
    i2cLines target s = i2cLines target s' := by
  unfold i2cLines
  rw [fieldText_congr (h "address" (by decide)), fieldText_congr (h "peripheral" (by decide)),
    fieldText_congr (h "speed" (by decide)), pinText_congr (h "pin_sda" (by decide)),
    pinText_congr (h "pin_scl" (by decide))]

/-- Only the settings of the transport that a display names are looked at. -/
lemma transportLines_congr (config : String) (h : Agree e e') :
    transportLines config e = transportLines config e' := by
  have htransport : e.get "transport" = e'.get "transport" := h.driver "transport" (by decide)
  unfold transportLines
  rw [← htransport]
  cases hget : e.get "transport" with
  | error fault => rfl
  | ok transport =>
    dsimp only [bind, Except.bind]
    split
    · obtain ⟨s, s', hs, hs', hagree⟩ := h.settings serial (List.mem_cons_self ..) hget
      have hkey : settingsOf e "4_wire_spi_config" = .ok s := hs
      have hkey' : settingsOf e' "4_wire_spi_config" = .ok s' := hs'
      rw [hkey, hkey']
      exact spiLines_congr hagree _
    · obtain ⟨s, s', hs, hs', hagree⟩ :=
        h.settings bus (List.mem_cons_of_mem _ (List.mem_singleton_self _)) hget
      have hkey : settingsOf e "i2c_config" = .ok s := hs
      have hkey' : settingsOf e' "i2c_config" = .ok s' := hs'
      rw [hkey, hkey']
      exact i2cLines_congr hagree _
    · rfl

lemma bringUpLines_congr (h : Agree e e') (driver : String) (i : ℕ) :
    bringUpLines e driver i = bringUpLines e' driver i := by
  simp only [bringUpLines, transportLines_congr _ h]

theorem bringUp_congr (h : List.Forall₂ Agree entries entries') :
    bringUp (.arr entries) = bringUp (.arr entries') := by
  have hlines (drivers : List String) :
      (entries.zip drivers).zipIdx.mapM (fun p => bringUpLines p.1.1 p.1.2 p.2) =
        (entries'.zip drivers).zipIdx.mapM fun p => bringUpLines p.1.1 p.1.2 p.2 := by
    refine mapM_congr ((forall₂_zipIdx (forall₂_zip h drivers) 0).imp ?_)
    rintro p p' ⟨⟨hdisplay, hdriver⟩, hindex⟩
    rw [bringUpLines_congr hdisplay, hdriver, hindex]
  rw [bringUp, bringUp, Value.length_arr, Value.length_arr, drivers_congr h, Value.items_arr,
    Value.items_arr]
  cases drivers (.arr entries') with
  | error fault => rfl
  | ok drivers =>
    dsimp only [bind, Except.bind] at hlines ⊢
    rw [hlines]

end Display

/-! ### Kinds -/

namespace Kind

/-- Whether a kind cannot tell two lists of entries apart. Of CV outputs only whether there are any
is looked at, and nothing of the kinds that contribute nothing. -/
def Agree (k : Kind) (entries entries' : List Value) : Prop :=
  match k.bank?, k with
  | some b, _ => List.Forall₂ (Value.AgreeOn b.readKeys) entries entries'
  | none, .oledDisplay => List.Forall₂ Display.Agree entries entries'
  | none, .cvOutput => entries.isEmpty = entries'.isEmpty
  | none, _ => True

variable {k : Kind}

lemma whenPresent_congr {generate : Generator} (hempty : entries.isEmpty = entries'.isEmpty)
    (h : generate (.arr entries) = generate (.arr entries')) :
    whenPresent generate (.arr entries) = whenPresent generate (.arr entries') := by
  rw [whenPresent, whenPresent, Value.truthy_arr, Value.truthy_arr, hempty, h]

lemma isEmpty_congr {R : Value → Value → Prop} (h : List.Forall₂ R entries entries') :
    entries.isEmpty = entries'.isEmpty := by
  cases h <;> rfl

lemma fragmentLines_congr_of_bank {b : Bank} (hb : k.bank? = some b)
    (h : List.Forall₂ (Value.AgreeOn b.readKeys) entries entries') (p : Phase) :
    k.fragmentLines p (.arr entries) = k.fragmentLines p (.arr entries') := by
  have hdisplay := ne_oledDisplay_of_bank? hb
  have hcv : k ≠ .cvOutput := by
    rintro rfl
    cases hb
  rw [fragmentLines]
  cases p with
  | inclusion =>
    rw [generator?, if_neg hdisplay]
    rfl
  | declaration =>
    rw [generator?, if_neg hdisplay, hb]
    exact whenPresent_congr (isEmpty_congr h) (b.declare_congr h)
  | initialization =>
    rw [generator?, if_neg hdisplay, if_neg hcv, hb]
    exact whenPresent_congr (isEmpty_congr h) (b.bringUp_congr h)
  | processing =>
    rw [generator?, hb, Option.bind_some]
    cases b.service? with
    | none => rfl
    | some method =>
      exact whenPresent_congr (isEmpty_congr h) (b.serviceAll_congr method h.length_eq)

lemma fragmentLines_congr_oledDisplay (h : List.Forall₂ Display.Agree entries entries')
    (p : Phase) : oledDisplay.fragmentLines p (.arr entries) =
      oledDisplay.fragmentLines p (.arr entries') := by
  cases p with
  | inclusion => exact Display.inclusions_congr h
  | declaration => exact whenPresent_congr (isEmpty_congr h) (Display.declare_congr h)
  | initialization => exact whenPresent_congr (isEmpty_congr h) (Display.bringUp_congr h)
  | processing => rfl

/-- Entries that a kind cannot tell apart come to the same fragments. -/
theorem fragmentLines_congr (h : k.Agree entries entries') (p : Phase) :
    k.fragmentLines p (.arr entries) = k.fragmentLines p (.arr entries') := by
  cases k with
  | oledDisplay => exact fragmentLines_congr_oledDisplay h p
  | cvOutput =>
    cases p with
    | initialization =>
      rw [fragmentLines, generator?, if_neg (by decide), if_pos rfl, Option.getD_some]
      exact whenPresent_congr h rfl
    | _ => rfl
  | gateOutput | midiHandler => cases p <;> rfl
  | _ => exact fragmentLines_congr_of_bank rfl h p

/-- And to the same members. -/
theorem members_congr (h : k.Agree entries entries') :
    k.members (.arr entries) = k.members (.arr entries') := by
  rw [members_eq, members_eq]
  cases k with
  | oledDisplay =>
    rw [memberNames, memberNames, if_pos rfl, if_pos rfl, List.Forall₂.length_eq h]
  | cvOutput | gateOutput | midiHandler => simp [memberNames, bank?]
  | _ => simp [memberNames, isEmpty_congr h]

end Kind

end ControlSurface
