import ControlSurface.Schema.Hardware
import Mathlib.Data.List.Nodup

/-!
# Fitting values

What can be said of a value that a check has let pass. A record fits if each declared field that it
holds fits; fields that are not declared may be anything.
-/

namespace ControlSurface.Schema

/-! ### Outcomes of checks -/

namespace Checked

variable {α β : Type}

lemma map_eq_ok_iff {f : α → β} {c : Checked α} {b : β} :
    c.map f = .ok b ↔ ∃ a, c = .ok a ∧ f a = b := by
  cases c <;> simp [Except.map]

lemma under_eq_ok_iff {step : Step} {c : Checked α} {a : α} : c.under step = .ok a ↔ c = .ok a := by
  cases c <;> simp [under, Except.mapError]

lemma both_eq_ok_iff {c : Checked α} {d : Checked β} {p : α × β} :
    both c d = .ok p ↔ c = .ok p.1 ∧ d = .ok p.2 := by
  obtain ⟨a, b⟩ := p
  cases c <;> cases d <;> simp [both]

/-- All outcomes of a list are there if and only if each one is. -/
lemma gather_eq_ok_iff {checks : List (Checked α)} {as : List α} :
    gather checks = .ok as ↔ checks = as.map Except.ok := by
  constructor
  · intro h
    induction checks generalizing as with
    | nil => cases h; rfl
    | cons c rest ih =>
      rw [gather_cons] at h
      obtain ⟨⟨a, as'⟩, hboth, rfl⟩ := map_eq_ok_iff.1 h
      obtain ⟨ha, has⟩ := both_eq_ok_iff.1 hboth
      rw [List.map_cons, ← ih has, ha]
  · rintro rfl
    exact gather_map_ok as

/-- The outcomes of several checks, as a function of what has been checked. -/
lemma gather_map_eq_ok_iff [Inhabited β] {c : α → Checked β} {l : List α} {bs : List β} :
    gather (l.map c) = .ok bs ↔ ∃ o, (∀ a ∈ l, c a = .ok (o a)) ∧ bs = l.map o := by
  rw [gather_eq_ok_iff]
  constructor
  · intro h
    refine ⟨fun a => (c a).toOption.getD default, fun a ha => ?_, ?_⟩
    · have hmem : c a ∈ bs.map Except.ok := h ▸ List.mem_map_of_mem ha
      obtain ⟨b, -, hb⟩ := List.mem_map.1 hmem
      simp [← hb, Except.toOption]
    · have hmaps := congrArg (List.map fun d : Checked β => d.toOption.getD default) h
      rw [List.map_map, List.map_map] at hmaps
      exact ((List.map_id bs).symm.trans hmaps.symm)
  · rintro ⟨o, ho, rfl⟩
    rw [List.map_map]
    exact List.map_congr_left ho

lemma mem_of_gather {checks : List (Checked α)} {as : List α} (h : gather checks = .ok as) {a : α}
    (ha : a ∈ as) : .ok a ∈ checks := by
  rw [gather_eq_ok_iff.1 h]
  exact List.mem_map_of_mem ha

end Checked

/-! ### Records -/

variable {τ : Type} {check : τ → Value → Checked Value} {fits : τ → Value → Prop}

/-- Whether a value is an object of which each declared field fits, as far as it is there. -/
def Record.Fits (fits : τ → Value → Prop) (r : Record τ) (v : Value) : Prop :=
  ∃ fields, v = .obj fields ∧
    ∀ f ∈ r.fields, ∀ w, fields.lookup f.spelling = some w → fits f.type w

/-- Whether the fields of a record are told apart by their spellings. -/
def Record.IsProper (r : Record τ) : Prop := (r.fields.map Field.spelling).Nodup

instance (r : Record τ) : Decidable r.IsProper := inferInstanceAs (Decidable (List.Nodup _))

/-- Whether a value is a list in which each item fits. -/
def ListFits (fits : Value → Prop) (v : Value) : Prop :=
  ∃ items, v = .arr items ∧ ∀ item ∈ items, fits item

lemma mem_of_lookup {pairs : List (String × Value)} {key : String} {w : Value}
    (h : pairs.lookup key = some w) : (key, w) ∈ pairs := by
  obtain ⟨front, back, rfl, -⟩ := List.lookup_eq_some_iff.1 h
  exact List.mem_append_right _ (List.mem_cons_self ..)

/-- A field in its proper spelling is not among the extras. -/
lemma lookup_extras (r : Record τ) (given : List (String × Value)) {f : Field τ}
    (hf : f ∈ r.fields) : (r.extras given).lookup f.spelling = none := by
  rw [List.lookup_eq_none_iff]
  intro p hp
  obtain ⟨hgiven, hextra⟩ := List.mem_filter.1 hp
  rw [bne_iff_ne]
  rintro heq
  have hsome : (given.lookup f.spelling).isSome = true :=
    List.lookup_isSome_iff.2 ⟨p, hgiven, beq_iff_eq.2 heq⟩
  have hused : f.keyIn? given = some p.1 := by
    rw [Field.keyIn?, List.find?_cons_of_pos (p := fun key => (given.lookup key).isSome) hsome, heq]
  have hmem : p.1 ∈ r.fields.filterMap fun f => f.keyIn? given :=
    List.mem_filterMap.2 ⟨f, hf, hused⟩
  simp [hmem] at hextra

lemma normalizeField_eq_ok {given : List (String × Value)} {f : Field τ} {p : String × Value}
    (h : Record.normalizeField check given f = .ok (some p)) :
    p.1 = f.spelling ∧ ∃ v, check f.type v = .ok p.2 := by
  unfold Record.normalizeField at h
  split at h
  · cases h
  · split at h
    · cases h
    · obtain ⟨w, hw, heq⟩ := Checked.map_eq_ok_iff.1 h
      rw [Option.some_inj] at heq
      subst heq
      exact ⟨rfl, _, Checked.under_eq_ok_iff.1 hw⟩

/-- A record that has been checked fits, if what is accepted for its fields does. -/
theorem normalize_fits {r : Record τ} (hr : r.IsProper)
    (hcheck : ∀ f ∈ r.fields, ∀ v w, check f.type v = .ok w → fits f.type w) {v w : Value}
    (h : r.normalize check v = .ok w) : r.Fits fits w := by
  unfold Record.normalize at h
  split at h
  swap
  · cases h
  next given =>
  obtain ⟨fields, hfields, rfl⟩ := Checked.map_eq_ok_iff.1 h
  obtain ⟨declared, hdeclared, rfl⟩ := Checked.map_eq_ok_iff.1 hfields
  refine ⟨_, rfl, fun f hf w hw => ?_⟩
  rw [List.lookup_append, lookup_extras r given hf, Option.or_none] at hw
  obtain ⟨o, ho, hsome⟩ := List.mem_filterMap.1 (mem_of_lookup hw)
  obtain rfl : o = some (f.spelling, w) := hsome
  obtain ⟨g, hg, heq⟩ := List.mem_map.1 (Checked.mem_of_gather hdeclared ho)
  obtain ⟨hspelling, v, hv⟩ := normalizeField_eq_ok heq
  obtain rfl : f = g := List.inj_on_of_nodup_map hr hf hg hspelling
  exact hcheck f hf v w hv

/-- A list that has been checked fits, if what is accepted for its items does. -/
theorem checkList_fits {check : Value → Checked Value} {fits : Value → Prop}
    (hcheck : ∀ v w, check v = .ok w → fits w) {v w : Value} (h : checkList check v = .ok w) :
    ListFits fits w := by
  unfold checkList at h
  split at h
  swap
  · cases h
  next items =>
  obtain ⟨checked, hchecked, rfl⟩ := Checked.map_eq_ok_iff.1 h
  refine ⟨_, rfl, fun item hitem => ?_⟩
  obtain ⟨⟨v, i⟩, -, heq⟩ := List.mem_map.1 (Checked.mem_of_gather hchecked hitem)
  exact hcheck v item (Checked.under_eq_ok_iff.1 heq)

/-! ### Descriptions -/

/-- Whether a value is one that a simple field may hold in a normalized record. -/
def Scalar.Fits : Scalar → Value → Prop
  | .text, v => ∃ s, v = .str s
  | .flag, v => ∃ b, v = .bool b
  | .pin, v => (∃ s, v = .str s) ∨ ∃ n, v = .int n

/-- Whether a value is one that a field of an entry may hold in a normalized description. -/
def EntryType.Fits : EntryType → Value → Prop
  | .scalar type, v => type.Fits v
  | .labels, v => ListFits (Scalar.Fits .text) v
  | .settings record, v => record.Fits Scalar.Fits v

/-- Whether the settings that a field holds are told apart by their spellings. -/
def EntryType.IsProper : EntryType → Prop
  | .settings record => record.IsProper
  | _ => True

instance : (t : EntryType) → Decidable t.IsProper
  | .settings record => inferInstanceAs (Decidable record.IsProper)
  | .scalar _ => .isTrue trivial
  | .labels => .isTrue trivial

lemma checkFlag_fits {v w : Value} (h : Scalar.checkFlag v = .ok w) : Scalar.Fits .flag w := by
  have hint {v : Value} {n : Int} (h : Scalar.flagOfInt v n = .ok w) : Scalar.Fits .flag w := by
    unfold Scalar.flagOfInt at h
    split_ifs at h <;> cases h <;> exact ⟨_, rfl⟩
  unfold Scalar.checkFlag at h
  split at h
  · cases h
    exact ⟨_, rfl⟩
  · exact hint h
  · split at h
    · split at h
      · exact hint h
      · cases h
    · cases h
  · split at h <;> cases h
    exact ⟨_, rfl⟩
  · cases h

lemma checkPin_fits {v w : Value} (h : Scalar.checkPin v = .ok w) : Scalar.Fits .pin w := by
  unfold Scalar.checkPin at h
  split at h
  · cases h
    exact .inl ⟨_, rfl⟩
  · cases h
    exact .inr ⟨_, rfl⟩
  · cases h
    exact .inr ⟨_, rfl⟩
  · split at h
    · cases h
    · split at h
      · cases h
      · split at h <;> cases h
        exact .inr ⟨_, rfl⟩
  · cases h

lemma checkText_fits {v w : Value} (h : Scalar.checkText v = .ok w) : Scalar.Fits .text w := by
  cases v <;> cases h
  exact ⟨_, rfl⟩

lemma Scalar.check_fits (t : Scalar) {v w : Value} (h : t.check v = .ok w) : t.Fits w := by
  cases t with
  | text => exact checkText_fits h
  | flag => exact checkFlag_fits h
  | pin => exact checkPin_fits h

lemma EntryType.check_fits {t : EntryType} (ht : t.IsProper) {v w : Value}
    (h : t.check v = .ok w) : t.Fits w := by
  cases t with
  | scalar type => exact type.check_fits h
  | labels =>
    exact checkList_fits (fun v w (hw : Scalar.checkText v = .ok w) => checkText_fits hw) h
  | settings record => exact normalize_fits ht (fun f _ _ _ => f.type.check_fits) h

lemma hardware_isProper : hardware.IsProper ∧ ∀ f ∈ hardware.fields, f.type.IsProper ∧
    ∀ g ∈ f.type.fields, g.type.IsProper := by
  decide

/-- Whether a value is a description as it is after normalization. -/
def IsDescription (v : Value) : Prop :=
  hardware.Fits (fun record => ListFits (record.Fits EntryType.Fits)) v

/-- What a normalized description is like. -/
theorem isDescription_of_normalize {v d : Value} (h : normalizeHardware v = .ok d) :
    IsDescription d := by
  refine normalize_fits hardware_isProper.1 (fun f hf v w hw => ?_) h
  obtain ⟨hrecord, hentry⟩ := hardware_isProper.2 f hf
  refine checkList_fits (fun v w hw => ?_) hw
  exact normalize_fits hrecord (fun g hg v w => EntryType.check_fits (hentry g hg)) hw

end ControlSurface.Schema
