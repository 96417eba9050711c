import ControlSurface.Keyed
import ControlSurface.Proofs.Generator.Fragment
import ControlSurface.Proofs.Members

/-!
# Descriptions without labels

Labels are further names for what is there. A description from which they have been taken has the
same entries otherwise, and a struct with the same members.
-/

namespace ControlSurface

open Schema

namespace Value

/-- An object without one of its fields. -/
def dropField (key : String) : Value → Value
  | .obj fields => .obj (fields.filter fun p => p.1 ≠ key)
  | v => v

/-- A list of which each item has been changed. -/
def mapItems (f : Value → Value) : Value → Value
  | .arr items => .arr (items.map f)
  | v => v

lemma lookup_map_snd (g : String → Value → Value) (fields : List (String × Value)) (key : String) :
    (fields.map fun p => (p.1, g p.1 p.2)).lookup key = (fields.lookup key).map (g key) := by
  induction fields with
  | nil => rfl
  | cons p rest ih =>
    obtain ⟨k, v⟩ := p
    rw [List.map_cons, Keyed.lookup_cons_eq, Keyed.lookup_cons_eq]
    split_ifs with h
    · rw [h, Option.map_some]
    · exact ih

lemma lookup_dropped (fields : List (String × Value)) (key dropped : String) :
    (fields.filter fun p => p.1 ≠ dropped).lookup key =
      if key = dropped then none else fields.lookup key := by
  induction fields with
  | nil => simp
  | cons p rest ih =>
    obtain ⟨k, v⟩ := p
    by_cases hk : k = dropped
    · rw [List.filter_cons_of_neg (by simpa using hk), ih, Keyed.lookup_cons_eq]
      split_ifs with h h' <;> simp_all
    · rw [List.filter_cons_of_pos (by simpa using hk), Keyed.lookup_cons_eq, ih,
        Keyed.lookup_cons_eq]
      split_ifs with h h' <;> simp_all

end Value

/-! ### Entries -/

/-- An entry without its labels. -/
def unlabelled (entry : Value) : Value := entry.dropField "labels"

lemma fits_unlabelled {record : Record EntryType} {e : Value} (h : record.Fits EntryType.Fits e) :
    record.Fits EntryType.Fits (unlabelled e) := by
  obtain ⟨fields, rfl, hfields⟩ := h
  refine ⟨_, rfl, fun f hf w hw => hfields f hf w ?_⟩
  rw [Value.lookup_dropped] at hw
  split_ifs at hw
  exact hw

lemma namesOf_unlabelled (e : Value) : Label.namesOf (unlabelled e) = [] := by
  cases e with
  | obj fields => rw [unlabelled, Value.dropField, Label.namesOf, Value.lookup_dropped, if_pos rfl]
  | _ => rfl

lemma fieldOf_unlabelled (e : Value) {key : String} (hne : key ≠ "labels") :
    fieldOf (unlabelled e) key = fieldOf e key := by
  cases e with
  | obj fields =>
    rw [unlabelled, Value.dropField, fieldOf, fieldOf, Value.lookup_dropped, if_neg hne]
  | _ => rfl

/-! ### Descriptions -/

namespace Description

/-- A description from the entries of which all labels have been taken. -/
def withoutLabels : Value → Value
  | .obj fields => .obj (fields.map fun p =>
    (p.1, if p.1 ∈ entryKeys then p.2.mapItems unlabelled else p.2))
  | v => v

lemma listed_withoutLabels (d : Value) {key : String} (hkey : key ∈ entryKeys) :
    listed (withoutLabels d) key = (listed d key).map unlabelled := by
  cases d with
  | obj fields =>
    rw [withoutLabels, listed, listed, Value.lookup_map_snd
      fun key v => if key ∈ entryKeys then v.mapItems unlabelled else v]
    cases fields.lookup key with
    | none => rfl
    | some w =>
      rw [Option.map_some, if_pos hkey]
      cases w <;> rfl
  | _ => rfl

lemma slots_withoutLabels (d : Value) (k : Kind) :
    slots (withoutLabels d) k = (slots d k).map unlabelled := by
  have hlisted : k.keys.flatMap (listed (withoutLabels d)) =
      (k.keys.flatMap (listed d)).map unlabelled := by
    rw [List.map_flatMap]
    refine List.flatMap_congr fun key hkey => listed_withoutLabels d ?_
    exact List.mem_flatMap.2 ⟨k, k.mem_all, hkey⟩
  rw [slots, slots, hlisted]
  split_ifs
  · exact List.map_take.symm
  · rfl

/-- Without labels, a normalized description still is one. -/
theorem isDescription_withoutLabels {d : Value} (hd : IsDescription d) :
    IsDescription (withoutLabels d) := by
  have hkeys : ∀ f ∈ hardware.fields, f.spelling ∈ entryKeys := by decide
  obtain ⟨fields, rfl, hfields⟩ := hd
  refine ⟨_, rfl, fun f hf w hw => ?_⟩
  rw [Value.lookup_map_snd fun key v => if key ∈ entryKeys then v.mapItems unlabelled else v] at hw
  simp only [if_pos (hkeys f hf)] at hw
  obtain ⟨v, hv, rfl⟩ := Option.map_eq_some_iff.1 hw
  obtain ⟨items, rfl, hitems⟩ := hfields f hf v hv
  exact ⟨_, rfl, List.forall_mem_map.2 fun item hitem => fits_unlabelled (hitems item hitem)⟩

/-- Whether no entry of a description carries a label. -/
def IsUnlabelled (d : Value) : Prop := ∀ k, ∀ e ∈ slots d k, Label.namesOf e = []

lemma isUnlabelled_withoutLabels (d : Value) : IsUnlabelled (withoutLabels d) := by
  intro k e he
  rw [slots_withoutLabels] at he
  obtain ⟨e, -, rfl⟩ := List.mem_map.1 he
  exact namesOf_unlabelled e

lemma IsUnlabelled.aliases_eq {d : Value} (h : IsUnlabelled d) (k : Kind) :
    Label.aliases (slots d k) = [] := by
  refine List.flatMap_eq_nil_iff.2 fun p hp => ?_
  rw [h k p.1 (List.fst_mem_of_mem_zipIdx hp), List.map_nil]

end Description

/-- The members of the struct are those that it has without labels. -/
theorem Header.memberNames_withoutLabels (d : Value) :
    memberNames (Description.withoutLabels d) = memberNames d := by
  have hkind (k : Kind) (entries : List Value) :
      k.memberNames (entries.map unlabelled) = k.memberNames entries := by
    rw [Kind.memberNames, Kind.memberNames, List.length_map, List.isEmpty_map]
  rw [memberNames, memberNames]
  simp only [Description.slots_withoutLabels, hkind]

end ControlSurface
