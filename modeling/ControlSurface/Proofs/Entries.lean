import ControlSurface.Notes
import ControlSurface.Proofs.Schema.Fitting

/-!
# Entries of a normalized description

In a normalized description every list of entries can be read, and so can the labels of every entry.
Reading them comes down to plain functions that cannot fail.
-/

namespace ControlSurface

open Schema

/-! ### Passes that do not fail -/

section Pass

variable {ε α β γ : Type}

lemma mapM_eq_ok {f : α → Except ε β} {g : α → β} {l : List α} (h : ∀ a ∈ l, f a = .ok (g a)) :
    l.mapM f = .ok (l.map g) := by
  induction l with
  | nil => rfl
  | cons a l ih =>
    obtain ⟨ha, hl⟩ := List.forall_mem_cons.1 h
    rw [List.mapM_cons, ha, ih hl]
    rfl

/-- A pass whose state is told by what has been gathered so far. -/
lemma foldlM_eq_ok {f : β → α → Except ε β} {s : List γ → β} {g : α → List γ} {l : List α}
    (h : ∀ a ∈ l, ∀ done, f (s done) a = .ok (s (done ++ g a))) (done : List γ) :
    l.foldlM f (s done) = .ok (s (done ++ l.flatMap g)) := by
  induction l generalizing done with
  | nil => simp [pure, Except.pure]
  | cons a l ih =>
    obtain ⟨ha, hl⟩ := List.forall_mem_cons.1 h
    rw [List.foldlM_cons, ha, List.flatMap_cons, ← List.append_assoc]
    exact ih hl _

end Pass

/-! ### Entries -/

namespace Description

/-- The entries that a description lists under a key. -/
def listed : Value → String → List Value
  | .obj fields, key =>
    match fields.lookup key with
    | some (.arr entries) => entries
    | _ => []
  | _, _ => []

/-- The entries of a kind in the order of their indices. -/
def slots (description : Value) (k : Kind) : List Value :=
  if k = .cvOutput then (k.keys.flatMap (listed description)).take dacChannels
  else k.keys.flatMap (listed description)

/-- The record of the entries under a key. -/
def IsListedAs (key : String) (record : Record EntryType) : Prop :=
  Field.plain key record ∈ hardware.fields

variable {d : Value} {key : String} {record : Record EntryType}

lemma listed_fits (hd : IsDescription d) (hkey : IsListedAs key record) :
    ∀ e ∈ listed d key, record.Fits EntryType.Fits e := by
  obtain ⟨fields, rfl, hfields⟩ := hd
  intro e he
  rw [listed] at he
  cases hlookup : fields.lookup key with
  | none => simp [hlookup] at he
  | some w =>
    obtain ⟨items, rfl, hitems⟩ := hfields _ hkey w hlookup
    rw [hlookup] at he
    exact hitems e he

/-- Whether a description has a list under a key, or nothing. -/
def Lists (d : Value) (key : String) : Prop :=
  d.get key = .ok .null ∧ listed d key = [] ∨ d.get key = .ok (.arr (listed d key))

lemma lists_of_isListedAs (hd : IsDescription d) (hkey : IsListedAs key record) : Lists d key := by
  obtain ⟨fields, rfl, hfields⟩ := hd
  rw [Lists, Value.get_obj, listed]
  cases hlookup : fields.lookup key with
  | none => exact .inl ⟨rfl, rfl⟩
  | some w =>
    obtain ⟨items, rfl, -⟩ := hfields _ hkey w hlookup
    exact .inr rfl

lemma Lists.entriesUnder_eq (h : Lists d key) : entriesUnder d key = .ok (listed d key) := by
  rcases h with ⟨hget, hnil⟩ | hget
  · rw [entriesUnder, hget, hnil]
    rfl
  · rw [entriesUnder, hget]
    exact Value.itemsOrNone_arr _

lemma Lists.length_get_eq (h : Lists d key) :
    ∃ w, d.get key = .ok w ∧ (w.orElse (.arr [])).length = .ok (listed d key).length := by
  rcases h with ⟨hget, hnil⟩ | hget
  · refine ⟨_, hget, ?_⟩
    rw [hnil]
    rfl
  · refine ⟨_, hget, ?_⟩
    cases listed d key <;> rfl

lemma entriesUnder_eq (hd : IsDescription d) (hkey : IsListedAs key record) :
    entriesUnder d key = .ok (listed d key) :=
  (lists_of_isListedAs hd hkey).entriesUnder_eq

lemma length_get_eq (hd : IsDescription d) (hkey : IsListedAs key record) :
    ∃ w, d.get key = .ok w ∧ (w.orElse (.arr [])).length = .ok (listed d key).length :=
  (lists_of_isListedAs hd hkey).length_get_eq

/-- Every key of a kind is that of a list in the schema. -/
lemma exists_isListedAs {k : Kind} (hkey : key ∈ k.keys) : ∃ record, IsListedAs key record := by
  have hmem : key ∈ hardware.fields.map Field.spelling := by
    have hall : ∀ k : Kind, ∀ key ∈ k.keys, key ∈ hardware.fields.map Field.spelling := by
      decide
    exact hall k key hkey
  have hplain : ∀ f ∈ hardware.fields, f.alias? = none := by decide
  obtain ⟨f, hf, rfl⟩ := List.mem_map.1 hmem
  refine ⟨f.type, ?_⟩
  have heq : Field.plain f.spelling f.type = f := by
    obtain ⟨name, alias?, type⟩ := f
    obtain rfl : alias? = none := hplain _ hf
    rfl
  rwa [IsListedAs, heq]

lemma entriesOf_eq_slots {k : Kind} (h : ∀ key ∈ k.keys, Lists d key) :
    entriesOf d k = .ok (slots d k) := by
  have hlisted : k.keys.mapM (entriesUnder d) = .ok (k.keys.map (listed d)) :=
    mapM_eq_ok fun key hkey => (h key hkey).entriesUnder_eq
  rw [entriesOf, hlisted]
  simp only [slots, List.flatMap]
  rfl

theorem entriesOf_eq (hd : IsDescription d) (k : Kind) : entriesOf d k = .ok (slots d k) :=
  entriesOf_eq_slots fun _ hkey =>
    let ⟨_, hrecord⟩ := exists_isListedAs hkey
    lists_of_isListedAs hd hrecord

/-- The channels of the board cut a list short, but never to nothing. -/
lemma isEmpty_slots_cvOutput (d : Value) :
    (slots d .cvOutput).isEmpty = (listed d "cv_outputs").isEmpty := by
  rw [slots, if_pos rfl, Kind.keys, List.flatMap_singleton]
  cases listed d "cv_outputs" <;> rfl

lemma mem_slots {k : Kind} {e : Value} (he : e ∈ slots d k) : ∃ key ∈ k.keys, e ∈ listed d key := by
  rw [slots] at he
  split_ifs at he
  · exact List.mem_flatMap.1 (List.mem_of_mem_take he)
  · exact List.mem_flatMap.1 he

end Description

/-! ### Labels -/

namespace Label

/-- The labels of an entry of a normalized description. -/
def namesOf : Value → List String
  | .obj fields =>
    match fields.lookup "labels" with
    | some (.arr labels) => labels.map Value.text
    | _ => []
  | _ => []

/-- Whether a value is an object whose labels are texts, if it has any. -/
def IsLabelled (entry : Value) : Prop :=
  entry.get "labels" = .ok .null ∧ namesOf entry = [] ∨
    entry.get "labels" = .ok (.arr ((namesOf entry).map .str))

/-- Every entry may have labels. -/
lemma mem_fields {key : String} {record : Record EntryType}
    (hkey : Description.IsListedAs key record) : Field.plain "labels" .labels ∈ record.fields := by
  have hall : ∀ f ∈ hardware.fields, Field.plain "labels" .labels ∈ f.type.fields := by
    intro f hf
    simp only [hardware, List.mem_cons, List.not_mem_nil, or_false] at hf
    rcases hf with rfl | rfl | rfl | rfl | rfl | rfl | rfl | rfl | rfl | rfl | rfl <;>
      exact List.mem_cons_self ..
  exact hall _ hkey

/-- The labels of every entry of a normalized description are texts. -/
lemma isLabelled_of_mem {d e : Value} {key : String} {record : Record EntryType}
    (hd : IsDescription d) (hkey : Description.IsListedAs key record)
    (he : e ∈ Description.listed d key) : IsLabelled e := by
  obtain ⟨fields, rfl, hfields⟩ := Description.listed_fits hd hkey e he
  rw [IsLabelled, Value.get_obj, namesOf]
  cases hlookup : fields.lookup "labels" with
  | none => exact .inl ⟨rfl, rfl⟩
  | some w =>
    obtain ⟨items, rfl, hitems⟩ := hfields _ (mem_fields hkey) w hlookup
    refine .inr ?_
    have htext : (items.map Value.text).map Value.str = items := by
      rw [List.map_map]
      refine (List.map_congr_left fun item hitem => ?_).trans (List.map_id _)
      obtain ⟨s, rfl⟩ := hitems item hitem
      rfl
    simp only [Option.getD_some, htext]

lemma isLabelled_of_mem_slots {d e : Value} {k : Kind} (hd : IsDescription d)
    (he : e ∈ Description.slots d k) : IsLabelled e := by
  obtain ⟨key, hkey, hlisted⟩ := Description.mem_slots he
  obtain ⟨record, hrecord⟩ := Description.exists_isListedAs hkey
  exact isLabelled_of_mem hd hrecord hlisted

variable {entries : List Value}

lemma ofEntry_eq {e : Value} (he : IsLabelled e) : ofEntry e = .ok ((namesOf e).map .str) := by
  rcases he with ⟨hget, hnil⟩ | hget
  · rw [ofEntry, hget, hnil]
    rfl
  · rw [ofEntry, hget]
    exact Value.itemsOrNone_arr _

/-- Every label of a list of entries with the slot that it is bound to. -/
def aliases (entries : List Value) : List (String × ℕ) :=
  entries.zipIdx.flatMap fun p => (namesOf p.1).map fun name => (name, p.2)

lemma map_fst_aliases (entries : List Value) :
    (aliases entries).map Prod.fst = entries.flatMap namesOf := by
  rw [aliases, List.map_flatMap]
  simp only [List.map_map, Function.comp_def, List.map_id']
  rw [← List.flatMap_map (f := Prod.fst), List.zipIdx_map_fst]

/-- The labels of an entry, each with the slot of the entry. -/
def bindingsOf (p : Value × ℕ) : Except Fault (List (Value × ℕ)) := do
  return (← ofEntry p.1).map fun label => (label, p.2)

lemma bindings_arr (entries : List Value) : bindings (.arr entries) = (do
    return (← entries.zipIdx.mapM bindingsOf).flatten) := rfl

lemma bindings_eq (h : ∀ e ∈ entries, IsLabelled e) :
    bindings (.arr entries) = .ok ((aliases entries).map fun p => (.str p.1, p.2)) := by
  have hbound : entries.zipIdx.mapM bindingsOf = .ok (entries.zipIdx.map fun p =>
      (namesOf p.1).map fun name => (Value.str name, p.2)) := by
    refine mapM_eq_ok fun p hp => ?_
    rw [bindingsOf, ofEntry_eq (h p.1 (List.fst_mem_of_mem_zipIdx hp))]
    simp [pure, Except.pure, bind, Except.bind, Function.comp_def]
  rw [bindings_arr, hbound, aliases, List.map_flatMap]
  simp only [List.map_map, List.flatMap]
  rfl

end Label

end ControlSurface
