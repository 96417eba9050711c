import ControlSurface.Proofs.Generator.Failure

/-!
# Rendered values

What a kind contributes for entries that nobody has checked. If the lines come out, and if the
values that are written into them as texts hold no line boundary, then they open with the few words
of the kind. Values that are not written may hold anything.
-/

namespace ControlSurface

open Text

variable {entries : List Value}

/-! ### Labels -/

namespace Label

lemma ofEntry_eq_contents {e : Value} (h : ¬IsMislabelled e) :
    ofEntry e = .ok (e.field "labels").contents := by
  obtain ⟨hobject, hbare⟩ := not_or.1 h
  rw [ofEntry, Value.get_eq_field (not_not.1 hobject)]
  exact Value.itemsOrNone_eq hbare

/-- Whatever entries hold as labels, with the slot that it is bound to. -/
def bound (entries : List Value) : List (Value × ℕ) :=
  entries.zipIdx.flatMap fun p => (p.1.field "labels").contents.map fun label => (label, p.2)

lemma exists_of_mem_bound {binding : Value × ℕ} (h : binding ∈ bound entries) :
    ∃ e ∈ entries, binding.1 ∈ (e.field "labels").contents := by
  obtain ⟨p, hp, hbinding⟩ := List.mem_flatMap.1 h
  obtain ⟨label, hlabel, rfl⟩ := List.mem_map.1 hbinding
  exact ⟨p.1, List.fst_mem_of_mem_zipIdx hp, hlabel⟩

lemma bindings_eq_bound (h : ∀ e ∈ entries, ¬IsMislabelled e) :
    bindings (.arr entries) = .ok (bound entries) := by
  have hbound : entries.zipIdx.mapM bindingsOf = .ok (entries.zipIdx.map fun p =>
      (p.1.field "labels").contents.map fun label => (label, p.2)) := by
    refine mapM_eq_ok fun p hp => ?_
    rw [bindingsOf, ofEntry_eq_contents (h p.1 (List.fst_mem_of_mem_zipIdx hp))]
    rfl
  rw [bindings_arr, hbound, bound, List.flatMap]
  rfl

end Label

/-! ### Banks -/

namespace Bank

lemma oneLine_service : ∀ b : Bank, ∀ method ∈ b.service?, OneLine method := by decide

/-- Whether everything that is written of the entries of a bank is on one line: their labels, and
the fields that stand in the lines as they are. -/
structure RendersOneLine (b : Bank) (entries : List Value) : Prop where
  labels : ∀ e ∈ entries, ∀ label ∈ (e.field "labels").contents, OneLine label.text
  fields : ∀ e ∈ entries, ∀ key ∈ b.writtenKeys, OneLine (fieldOf e key)

variable {b : Bank} (h : b.RendersOneLine entries)
include h

lemma declare_led : Yields (AllLed (b.leads .declaration)) (b.declare (.arr entries)) := by
  intro lines hlines
  have hlabelled : ∀ e ∈ entries, ¬Label.IsMislabelled e := fun e he hbad =>
    b.declare_failsIff.of_ok lines hlines ⟨e, he, hbad⟩
  have heq : b.declare (.arr entries) = .ok (b.declarationHead entries.length ++
      (Label.bound entries).map (Label.reference b.typeName b.arrayName)) := by
    rw [declare, Label.references, Label.bindings_eq_bound hlabelled]
    rfl
  obtain rfl := Except.ok.inj (heq.symm.trans hlines)
  refine b.allLed_references _ ?_
  intro binding hbinding
  obtain ⟨e, he, hlabel⟩ := Label.exists_of_mem_bound hbinding
  exact h.labels e he _ hlabel

lemma bringUp_led : Yields (AllLed (b.leads .initialization)) (b.bringUp (.arr entries)) := by
  intro lines hlines
  have hobject : ∀ e ∈ entries, e.IsObject := by
    intro e he
    by_contra hbad
    exact b.bringUp_failsIff.of_ok lines hlines ⟨e, he, hbad⟩
  obtain rfl := Except.ok.inj ((b.bringUp_eq hobject).symm.trans hlines)
  exact b.allLed_initialization h.fields

omit h in
lemma serviceAll_led {method : String} (hmethod : b.service? = some method) :
    Yields (AllLed (b.leads .processing)) (b.serviceAll method (.arr entries)) := by
  rw [serviceAll_eq]
  exact Yields.ok (b.allLed_processing (oneLine_service b method hmethod) _)

end Bank

/-! ### Displays -/

namespace Display

/-- Displays need one header at most, whatever they are. -/
lemma inclusions_yields (displays : Value) :
    Yields (fun lines => ∃ needs : Bool, lines = if needs then [familyHeader] else [])
      (inclusions displays) := by
  apply Yields.bind
  intro items _
  exact Yields.map fun needs => ⟨needs, rfl⟩

lemma isConfigured_of_not {e : Value} (h : ¬(¬e.IsObject ∨ IsMisconfigured e)) :
    IsConfigured e := by
  obtain ⟨hobject, hsettings⟩ := not_or.1 h
  rw [not_not] at hobject
  have hfine {transport key : String} (hmem : (transport, key) ∈ transports)
      (htransport : e.get "transport" = .ok (.str transport)) : (settingsIn e key).IsObject := by
    rw [settingsIn_eq_field hobject]
    by_contra hbad
    rw [Value.get_eq_field hobject] at htransport
    exact hsettings ⟨_, hmem, Except.ok.inj htransport, isObject_orElse_iff.1 hbad⟩
  exact ⟨hobject, hfine (by decide), hfine (by decide)⟩

variable (h : ∀ e ∈ entries, IsWritten e)
include h

lemma declare_led : Yields (AllLed (leads .declaration)) (declare (.arr entries)) := by
  intro lines hlines
  have hobject : ∀ e ∈ entries, e.IsObject := by
    intro e he
    by_contra hbad
    exact declare_failsIff.of_ok lines hlines ⟨e, he, hbad⟩
  obtain rfl := Except.ok.inj ((declare_eq hobject).symm.trans hlines)
  exact declarationLines_led fun e he => oneLine_driverOf (h e he).driver

lemma bringUp_led : Yields (AllLed (leads .initialization)) (bringUp (.arr entries)) := by
  intro lines hlines
  have hconfigured : ∀ e ∈ entries, IsConfigured e := fun e he =>
    isConfigured_of_not fun hbad => bringUp_failsIff.of_ok lines hlines ⟨e, he, hbad⟩
  obtain rfl := Except.ok.inj ((bringUp_eq hconfigured).symm.trans hlines)
  exact bringUpBlock_led h

end Display

/-! ### Kinds -/

namespace Kind

variable {k : Kind} {p : Phase} {b : Bank}

/-- How the lines of a kind open. -/
def leads (k : Kind) (p : Phase) : List String :=
  match k.bank? with
  | some b => b.leads p
  | none =>
    match k, p with
    | .oledDisplay, p => Display.leads p
    | .cvOutput, .initialization => ["// ", "DacHandle::", "dac_cfg", "seed.dac."]
    | _, _ => []

lemma leads_of_bank (hb : k.bank? = some b) (p : Phase) : k.leads p = b.leads p := by
  unfold leads
  rw [hb]

lemma bringUpCvOutputs_led : AllLed (leads .cvOutput .initialization) bringUpCvOutputs := by
  have h : ∀ line ∈ bringUpCvOutputs,
      OneLine line ∧ ∃ lead ∈ leads .cvOutput .initialization, Leads lead line := by
    decide
  exact h

lemma allLed_inclusions (needs : Bool) : AllLed (leads .oledDisplay .inclusion)
    (if needs then [Display.familyHeader] else []) := by
  have h : ∀ needs : Bool, ∀ line ∈ if needs then [Display.familyHeader] else [],
      OneLine line ∧ ∃ lead ∈ leads .oledDisplay .inclusion, Leads lead line := by
    decide
  exact h needs

/-- Whether everything that is written of the entries of a kind is on one line. -/
structure RendersOneLine (k : Kind) (entries : List Value) : Prop where
  bank : ∀ b ∈ k.bank?, b.RendersOneLine entries
  display : k = .oledDisplay → ∀ e ∈ entries, Display.IsWritten e

lemma generator?_led {generate : Generator} (hgenerate : k.generator? p = some generate)
    (h : k.RendersOneLine entries) : Yields (AllLed (k.leads p)) (generate (.arr entries)) := by
  cases p with
  | inclusion =>
    rw [generator?] at hgenerate
    split_ifs at hgenerate with hk
    subst hk
    cases hgenerate
    intro lines hlines
    obtain ⟨needs, rfl⟩ := Display.inclusions_yields _ lines hlines
    exact allLed_inclusions needs
  | declaration =>
    rw [generator?] at hgenerate
    split_ifs at hgenerate with hk
    · subst hk
      cases hgenerate
      exact whenPresent_yields (AllLed.nil _) (Display.declare_led (h.display rfl))
    · obtain ⟨b, hb, rfl⟩ := Option.map_eq_some_iff.1 hgenerate
      rw [leads_of_bank hb]
      exact whenPresent_yields (AllLed.nil _) (Bank.declare_led (h.bank b hb))
  | initialization =>
    rw [generator?] at hgenerate
    split_ifs at hgenerate with hk hcv
    · subst hk
      cases hgenerate
      exact whenPresent_yields (AllLed.nil _) (Display.bringUp_led (h.display rfl))
    · subst hcv
      cases hgenerate
      exact whenPresent_yields (AllLed.nil _) (Yields.ok bringUpCvOutputs_led)
    · obtain ⟨b, hb, rfl⟩ := Option.map_eq_some_iff.1 hgenerate
      rw [leads_of_bank hb]
      exact whenPresent_yields (AllLed.nil _) (Bank.bringUp_led (h.bank b hb))
  | processing =>
    obtain ⟨b, hb, hservice⟩ := Option.bind_eq_some_iff.1 hgenerate
    obtain ⟨method, hmethod, rfl⟩ := Option.map_eq_some_iff.1 hservice
    rw [leads_of_bank hb]
    exact whenPresent_yields (AllLed.nil _) (Bank.serviceAll_led hmethod)

/-- The lines of a kind open with its words if what is written into them is on one line. -/
theorem fragmentLines_yields (h : k.RendersOneLine entries) (p : Phase) :
    Yields (AllLed (k.leads p)) (k.fragmentLines p (.arr entries)) := by
  unfold fragmentLines
  cases hgenerate : k.generator? p with
  | none => exact Yields.ok (AllLed.nil _)
  | some generate => exact generator?_led hgenerate h

/-- Lines that open with the words of a kind have something on them. -/
lemma solid_of_allLed {lines : List String} (h : AllLed (k.leads p) lines) :
    ∀ line ∈ lines, Solid line := by
  have hleads : ∀ (k : Kind) (p : Phase), ∀ lead ∈ k.leads p,
      (lead.toList.any fun c => !isBlank c) = true := by decide
  intro line hline
  obtain ⟨hone, lead, hlead, hprefix⟩ := h line hline
  obtain ⟨c, hc, hblank⟩ := List.any_eq_true.1 (hleads k p lead hlead)
  exact ⟨hone, c, hprefix.subset hc, Bool.not_eq_true' _ ▸ hblank⟩

/-- Only displays have anything brought in. -/
lemma fragmentLines_inclusion (hk : k ≠ .oledDisplay) (entries : Value) :
    k.fragmentLines .inclusion entries = .ok [] := by
  rw [fragmentLines, generator?, if_neg hk]
  rfl

end Kind

end ControlSurface
