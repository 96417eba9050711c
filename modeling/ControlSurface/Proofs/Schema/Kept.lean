import ControlSurface.Proofs.Generator.Field
import ControlSurface.Proofs.Schema.Idempotence
import Mathlib.Data.List.Forall2

/-!
# What normalizing keeps

A normalized record has the fields of the one that was given: those that were null or missing are
missing, and the others are what their checks make of them. So its lists have as many entries, and
each entry has the labels that it had.
-/

namespace ControlSurface

/-! ### Labels -/

namespace Label

lemma namesOf_eq_field (e : Value) : namesOf e =
    match e.field "labels" with
    | .arr labels => labels.map Value.text
    | _ => [] := by
  cases e with
  | obj fields =>
    rw [namesOf, Value.field]
    cases hlookup : fields.lookup "labels" with
    | none => rfl
    | some w => cases w <;> rfl
  | _ => rfl

lemma namesOf_congr {e e' : Value} (h : e.get "labels" = e'.get "labels") :
    namesOf e = namesOf e' := by
  rw [namesOf_eq_field, namesOf_eq_field]
  cases e with
  | obj fields =>
    cases e' with
    | obj fields' =>
      have hfield : (Value.obj fields).field "labels" = (Value.obj fields').field "labels" :=
        Except.ok.inj h
      rw [hfield]
    | _ => cases h
  | _ =>
    cases e' with
    | obj fields' => cases h
    | _ => rfl

end Label

namespace Schema

/-! ### Fields -/

section Field

variable {τ : Type} {check : τ → Value → Checked Value} {r : Record τ} {f : Field τ} {e e' : Value}

/-- What becomes of a declared field. If it has a second name, nothing may be found under that
alone. -/
theorem field_of_normalize (hr : r.IsProper) (h : r.normalize check e = .ok e') (hf : f ∈ r.fields)
    (hname : ∀ fields, e = .obj fields → fields.lookup f.spelling = none →
      fields.lookup f.name = none) :
    e.field f.spelling = .null ∧ e'.field f.spelling = .null ∨ e.field f.spelling ≠ .null ∧
      check f.type (e.field f.spelling) = .ok (e'.field f.spelling) := by
  cases e with
  | obj given =>
    obtain ⟨out, hout, rfl⟩ := Checked.map_eq_ok_iff.1 h
    have hfield := ((normalizeFields_eq_ok_iff hr).1 hout).1 f hf
    have hmissing (hnone : Record.normalizeField check given f = .ok none) :
        (Value.obj out).field f.spelling = .null := by
      rw [hnone, Except.ok.injEq, eq_comm, Option.map_eq_none_iff] at hfield
      exact Value.field_eq_null hfield
    cases hgiven : given.lookup f.spelling with
    | none =>
      refine .inl ⟨Value.field_eq_null hgiven, hmissing ?_⟩
      simp [Record.normalizeField, keyIn?_eq_none hgiven (hname _ rfl hgiven)]
    | some w =>
      cases hnull : w.isNull with
      | true =>
        obtain rfl := eq_null_of_isNull hnull
        exact .inl ⟨Value.field_of_lookup hgiven, hmissing (normalizeField_of_null hgiven)⟩
      | false =>
        rw [normalizeField_of_keyIn? (keyIn?_of_lookup hgiven) hgiven hnull] at hfield
        obtain ⟨checked, hchecked, hsome⟩ := Checked.map_eq_ok_iff.1 hfield
        obtain ⟨w', hw', heq⟩ := Option.map_eq_some_iff.1 hsome.symm
        obtain rfl : w' = checked := congrArg Prod.snd heq
        rw [Value.field_of_lookup hgiven, Value.field_of_lookup hw']
        exact .inr ⟨isNull_eq_false_iff.1 hnull, Checked.under_eq_ok_iff.1 hchecked⟩
  | _ => cases h

/-- A field with one name. -/
theorem field_of_normalize_of_plain (hr : r.IsProper) (h : r.normalize check e = .ok e')
    (hf : f ∈ r.fields) (hplain : f.name = f.spelling) :
    e.field f.spelling = .null ∧ e'.field f.spelling = .null ∨ e.field f.spelling ≠ .null ∧
      check f.type (e.field f.spelling) = .ok (e'.field f.spelling) :=
  field_of_normalize hr h hf fun _ _ hmissing => hplain ▸ hmissing

lemma isObject_of_normalize (h : r.normalize check e = .ok e') : e.IsObject ∧ e'.IsObject := by
  cases e with
  | obj given =>
    obtain ⟨out, -, rfl⟩ := Checked.map_eq_ok_iff.1 h
    exact ⟨⟨given, rfl⟩, ⟨out, rfl⟩⟩
  | _ => cases h

/-- A field stays as it is if its check does not change it. -/
lemma get_eq_of_normalize (hr : r.IsProper) (h : r.normalize check e = .ok e') (hf : f ∈ r.fields)
    (hplain : f.name = f.spelling)
    (hcheck : e.field f.spelling ≠ .null →
      ∀ w, check f.type (e.field f.spelling) = .ok w → w = e.field f.spelling) :
    e.get f.spelling = e'.get f.spelling := by
  obtain ⟨hobject, hobject'⟩ := isObject_of_normalize h
  rw [Value.get_eq_field hobject, Value.get_eq_field hobject']
  rcases field_of_normalize_of_plain hr h hf hplain with ⟨hnull, hnull'⟩ | ⟨hnull, hchecked⟩
  · rw [hnull, hnull']
  · rw [hcheck hnull _ hchecked]

end Field

/-! ### Lists -/

lemma flatMap_congr {α β : Type} {f g : α → List β} {l l' : List α}
    (h : List.Forall₂ (fun a a' => f a = g a') l l') : l.flatMap f = l'.flatMap g := by
  induction h with
  | nil => rfl
  | cons hhead _ ih => rw [List.flatMap_cons, List.flatMap_cons, hhead, ih]

section List

variable {check : Value → Checked Value} {v w : Value}

/-- Whether two values are lists whose items are related one by one. -/
def ItemByItem (R : Value → Value → Prop) (v w : Value) : Prop :=
  ∃ items items', v = .arr items ∧ w = .arr items' ∧ List.Forall₂ R items items'

/-- The items of a list that has been checked are what is made of the items given. -/
lemma forall₂_of_checkList (h : checkList check v = .ok w) :
    ItemByItem (fun item item' => check item = .ok item') v w := by
  obtain ⟨items, rfl⟩ := eq_arr_of_checkList h
  obtain ⟨items', hitems, rfl⟩ := Checked.map_eq_ok_iff.1 h
  obtain ⟨o, ho, rfl⟩ := Checked.gather_map_eq_ok_iff.1 hitems
  refine ⟨items, _, rfl, rfl, ?_⟩
  have hall : List.Forall₂ (fun item item' => check item = .ok item')
      (items.zipIdx.map Prod.fst) (items.zipIdx.map o) := by
    rw [List.forall₂_map_left_iff, List.forall₂_map_right_iff, List.forall₂_same]
    exact fun p hp => Checked.under_eq_ok_iff.1 (ho p hp)
  rwa [List.zipIdx_map_fst] at hall

lemma eq_of_checkList (hcheck : ∀ v w, check v = .ok w → w = v) (h : checkList check v = .ok w) :
    w = v := by
  obtain ⟨items, items', rfl, rfl, hitems⟩ := forall₂_of_checkList h
  have heq : List.Forall₂ (· = ·) items' items := hitems.flip.imp fun w v hw => hcheck v w hw
  exact congrArg Value.arr (List.forall₂_eq_eq_eq ▸ heq)

end List

/-! ### Descriptions -/

section Description

/-- Whether no display gives the settings of the serial transport under their second name. -/
def SpellsSettings (v : Value) : Prop :=
  ∀ fields, .obj fields ∈ Description.listed v "oled_displays" → fields.lookup "spi_config" = none

variable {v d e e' : Value} {key : String} {record : Record EntryType}

lemma listed_of_field_eq_null (h : v.field key = .null) : Description.listed v key = [] := by
  unfold Description.listed
  split
  · split
    · next hlookup =>
      rw [Value.field_of_lookup hlookup] at h
      cases h
    · rfl
  · rfl

lemma listed_of_field_eq_arr {entries : List Value} (h : v.field key = .arr entries) :
    Description.listed v key = entries := by
  cases v with
  | obj fields => rw [Description.listed, Value.lookup_of_field h Value.noConfusion]
  | _ => cases h

/-- The entries that are listed under a key, one by one. -/
theorem listed_of_normalize (h : normalizeHardware v = .ok d)
    (hkey : Description.IsListedAs key record) : Description.Lists v key ∧
      List.Forall₂ (fun e e' => record.normalize EntryType.check e = .ok e')
        (Description.listed v key) (Description.listed d key) := by
  obtain ⟨hobject, -⟩ := isObject_of_normalize h
  have hfield : v.field key = .null ∧ d.field key = .null ∨
      v.field key ≠ .null ∧ checkEntries record (v.field key) = .ok (d.field key) :=
    field_of_normalize_of_plain hardware_isProper.1 h hkey rfl
  rw [Description.Lists, Value.get_eq_field hobject]
  rcases hfield with ⟨hnull, hnull'⟩ | ⟨-, hcheck⟩
  · rw [listed_of_field_eq_null hnull, listed_of_field_eq_null hnull']
    exact ⟨.inl ⟨congrArg Except.ok hnull, rfl⟩, .nil⟩
  · obtain ⟨entries, entries', hentries, hentries', hforall⟩ := forall₂_of_checkList hcheck
    rw [listed_of_field_eq_arr hentries, listed_of_field_eq_arr hentries']
    exact ⟨.inr (congrArg Except.ok hentries), hforall⟩

/-- The labels of an entry stay as they are. -/
theorem labels_of_normalize (hkey : Description.IsListedAs key record)
    (h : record.normalize EntryType.check e = .ok e') : e.get "labels" = e'.get "labels" := by
  refine get_eq_of_normalize (hardware_isProper.2 _ hkey).1 h (Label.mem_fields hkey) rfl ?_
  refine fun _ w hw => eq_of_checkList (fun v w hvw => ?_) hw
  cases v <;> cases hvw
  rfl

lemma namesOf_of_normalize (hkey : Description.IsListedAs key record)
    (h : record.normalize EntryType.check e = .ok e') : Label.namesOf e = Label.namesOf e' :=
  Label.namesOf_congr (labels_of_normalize hkey h)

end Description

end Schema

end ControlSurface
