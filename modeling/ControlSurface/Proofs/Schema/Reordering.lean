import ControlSurface.Keyed
import ControlSurface.Proofs.Generator.Agreement
import ControlSurface.Proofs.Schema.Kept

/-!
# The order of the fields of objects

The order in which an object gives its fields is of no consequence to a check. Values that differ in
nothing else either both fit or have the same issues, in the same order; and then what is made of
them holds the same under the declared keys. Only fields that are not declared keep the order in
which they were given.
-/

namespace ControlSurface

/-! ### Related options -/

section Option

variable {α β γ δ : Type} {R : α → β → Prop} {o : Option α} {o' : Option β}

lemma eq_of_rel {R : α → α → Prop} {o o' : Option α} (h : Option.Rel R o o')
    (hR : ∀ a b, R a b → a = b) : o = o' := by
  cases h with
  | none => rfl
  | some h => rw [hR _ _ h]

lemma isSome_eq_of_rel (h : Option.Rel R o o') : o.isSome = o'.isSome := by
  cases h <;> rfl

lemma getD_of_rel (h : Option.Rel R o o') {a : α} {b : β} (hab : R a b) :
    R (o.getD a) (o'.getD b) := by
  cases h with
  | none => exact hab
  | some h => exact h

lemma rel_of_map {S : γ → δ → Prop} {f : α → γ} {g : β → δ}
    (h : Option.Rel S (o.map f) (o'.map g)) : Option.Rel (fun a b => S (f a) (g b)) o o' := by
  cases o with
  | none =>
    cases o' with
    | none => exact .none
    | some b => cases h
  | some a =>
    cases o' with
    | none => cases h
    | some b =>
      cases h with
      | some h => exact .some h

end Option

/-! ### Values up to the order of fields -/

/-- Whether two values are the same but for the order in which objects give their fields, at any
depth: all that counts in an object is what is found under each key. -/
inductive Value.Reordered : Value → Value → Prop
  | null : Reordered .null .null
  | bool (b : Bool) : Reordered (.bool b) (.bool b)
  | int (n : Int) : Reordered (.int n) (.int n)
  | float (x : Binary64) : Reordered (.float x) (.float x)
  | str (s : String) : Reordered (.str s) (.str s)
  | arr {items items' : List Value} (h : List.Forall₂ Reordered items items') :
      Reordered (.arr items) (.arr items')
  | obj {fields fields' : List (String × Value)}
      (h : ∀ key, Option.Rel Reordered (fields.lookup key) (fields'.lookup key)) :
      Reordered (.obj fields) (.obj fields')

namespace Value.Reordered

variable {fields fields' changed : List (String × Value)}

mutual

protected theorem refl : (v : Value) → v.Reordered v
  | .null => .null
  | .bool b => .bool b
  | .int n => .int n
  | .float x => .float x
  | .str s => .str s
  | .arr items => .arr (refl_items items)
  | .obj fields => .obj (refl_fields fields)

theorem refl_items : (items : List Value) → List.Forall₂ Reordered items items
  | [] => .nil
  | v :: rest => .cons (Reordered.refl v) (refl_items rest)

theorem refl_fields : (fields : List (String × Value)) → ∀ key,
    Option.Rel Reordered (fields.lookup key) (fields.lookup key)
  | [], _ => .none
  | (k, v) :: rest, key => by
    rw [Keyed.lookup_cons_eq]
    split_ifs
    · exact .some (Reordered.refl v)
    · exact refl_fields rest key

end

/-- The fields of an object may be changed one by one and then put into another order. -/
lemma of_perm (hkeys : (Keyed.keys fields').Nodup)
    (h : List.Forall₂ (fun p q => p.1 = q.1 ∧ p.2.Reordered q.2) fields changed)
    (hperm : fields'.Perm changed) : (Value.obj fields).Reordered (.obj fields') := by
  refine .obj fun key => ?_
  rw [Keyed.lookup_eq_of_perm hkeys hperm]
  clear hperm
  induction h with
  | nil => exact .none
  | @cons p q _ _ hhead _ ih =>
    obtain ⟨k, v⟩ := p
    obtain ⟨k', v'⟩ := q
    obtain ⟨rfl, hv⟩ : k = k' ∧ v.Reordered v' := hhead
    rw [Keyed.lookup_cons_eq, Keyed.lookup_cons_eq]
    split_ifs
    · exact .some hv
    · exact ih

end Value.Reordered

namespace Schema

/-! ### Outcomes that are alike -/

/-- Where an issue is and what it is, the part that has it left aside. -/
def Issue.finding (i : Issue) : List Step × Problem := (i.path, i.problem)

/-- Whether two checks come to outcomes that are related, or have the same findings in the same
order. -/
inductive Checked.Alike {α β : Type} (R : α → β → Prop) : Checked α → Checked β → Prop
  | ok {a b} (h : R a b) : Alike R (.ok a) (.ok b)
  | error {found found'} (h : found.map Issue.finding = found'.map Issue.finding) :
      Alike R (.error found) (.error found')

namespace Checked.Alike

variable {α β γ δ : Type} {R : α → β → Prop} {S : γ → δ → Prop} {c : Checked α} {c' : Checked β}
  {d : Checked γ} {d' : Checked δ}

lemma same {R : α → α → Prop} (hR : ∀ a, R a a) (c : Checked α) : Alike R c c := by
  cases c with
  | ok a => exact .ok (hR a)
  | error found => exact .error rfl

lemma problem (v v' : Value) (p : Problem) : Alike R (.problem v p) (.problem v' p) := .error rfl

lemma map {f : α → γ} {g : β → δ} (h : Alike R c c') (hfg : ∀ a b, R a b → S (f a) (g b)) :
    Alike S (c.map f) (c'.map g) := by
  cases h with
  | ok h => exact .ok (hfg _ _ h)
  | error h => exact .error h

lemma of_ok {a : α} {b : β} (h : Alike R (.ok a) (.ok b)) : R a b := by
  cases h with
  | ok h => exact h

/-- What else is known of the outcomes. -/
lemma imp {R' : α → β → Prop} (h : Alike R c c')
    (hR : ∀ a b, c = .ok a → c' = .ok b → R a b → R' a b) : Alike R' c c' := by
  cases h with
  | ok h => exact .ok (hR _ _ rfl rfl h)
  | error h => exact .error h

lemma under (h : Alike R c c') (step : Step) : Alike R (c.under step) (c'.under step) := by
  cases h with
  | ok h => exact .ok h
  | error h =>
    have hunder (found : List Issue) : (found.map (Issue.under step)).map Issue.finding =
        (found.map Issue.finding).map fun p => (step :: p.1, p.2) := by
      rw [List.map_map, List.map_map]
      rfl
    exact .error (by rw [hunder, hunder, h])

lemma both (h : Alike R c c') (h' : Alike S d d') :
    Alike (fun p p' => R p.1 p'.1 ∧ S p.2 p'.2) (Checked.both c d) (Checked.both c' d') := by
  cases h with
  | ok h =>
    cases h' with
    | ok h' => exact .ok ⟨h, h'⟩
    | error h' => exact .error h'
  | error h =>
    cases h' with
    | ok h' => exact .error h
    | error h' => exact .error (by rw [List.map_append, List.map_append, h, h'])

lemma gather {checks : List (Checked α)} {checks' : List (Checked β)}
    (h : List.Forall₂ (Alike R) checks checks') :
    Alike (List.Forall₂ R) (Checked.gather checks) (Checked.gather checks') := by
  induction h with
  | nil => exact .ok .nil
  | cons hhead _ ih =>
    rw [gather_cons, gather_cons]
    exact (hhead.both ih).map fun _ _ ⟨ha, has⟩ => .cons ha has

end Checked.Alike

/-! ### Records and lists -/

section Record

variable {τ : Type} {check : τ → Value → Checked Value} {alike : τ → Value → Value → Prop}
  {r : Record τ} {f : Field τ} {given given' : List (String × Value)} {v v' : Value}

/-- Whether two values are objects that hold the same under the keys which a record declares, as far
as the types of the fields tell. -/
def Record.Alike (alike : τ → Value → Value → Prop) (r : Record τ) (v v' : Value) : Prop :=
  ∃ fields fields', v = .obj fields ∧ v' = .obj fields' ∧ ∀ f ∈ r.fields,
    Option.Rel (alike f.type) (fields.lookup f.spelling) (fields'.lookup f.spelling)

section Fields

variable (hgiven : ∀ key, Option.Rel Value.Reordered (given.lookup key) (given'.lookup key))
include hgiven

lemma keyIn?_eq_of_reordered (f : Field τ) : f.keyIn? given = f.keyIn? given' := by
  have hsome : (fun key => (given.lookup key).isSome) = fun key => (given'.lookup key).isSome :=
    funext fun key => isSome_eq_of_rel (hgiven key)
  rw [Field.keyIn?, Field.keyIn?, hsome]

lemma normalizeField_alike (hcheck : ∀ v v', v.Reordered v' →
    Checked.Alike (alike f.type) (check f.type v) (check f.type v')) :
    Checked.Alike (Option.Rel fun p p' => alike f.type p.2 p'.2)
      (Record.normalizeField check given f) (Record.normalizeField check given' f) := by
  have hkeys := keyIn?_eq_of_reordered hgiven f
  cases hkey : f.keyIn? given with
  | none =>
    rw [Record.normalizeField, Record.normalizeField, ← hkeys, hkey]
    exact .ok .none
  | some key =>
    have hvalue : ((given.lookup key).getD .null).Reordered ((given'.lookup key).getD .null) :=
      getD_of_rel (hgiven key) .null
    have hchecked {v v' : Value} (h : v.Reordered v') :
        Checked.Alike (Option.Rel fun p p' => alike f.type p.2 p'.2)
          ((Checked.under (.key key) (check f.type v)).map fun w => some (f.spelling, w))
          ((Checked.under (.key key) (check f.type v')).map fun w => some (f.spelling, w)) :=
      ((hcheck v v' h).under _).map fun _ _ hw => .some hw
    rw [Record.normalizeField, Record.normalizeField, ← hkeys, hkey]
    dsimp only
    generalize (given.lookup key).getD .null = v at hvalue ⊢
    generalize (given'.lookup key).getD .null = v' at hvalue ⊢
    cases hvalue with
    | null => exact .ok .none
    | arr h => exact hchecked (.arr h)
    | obj h => exact hchecked (.obj h)
    | _ => exact hchecked (.refl _)

/-- Objects that hold the same under every key come to records that do under the declared keys. -/
theorem normalizeFields_alike (hr : r.IsProper) (hcheck : ∀ f ∈ r.fields, ∀ v v', v.Reordered v' →
    Checked.Alike (alike f.type) (check f.type v) (check f.type v')) :
    Checked.Alike (fun out out' => ∀ f ∈ r.fields,
        Option.Rel (alike f.type) (out.lookup f.spelling) (out'.lookup f.spelling))
      (r.normalizeFields check given) (r.normalizeFields check given') := by
  have hfield : ∀ f ∈ r.fields, Checked.Alike (Option.Rel fun p p' => alike f.type p.2 p'.2)
      (Record.normalizeField check given f) (Record.normalizeField check given' f) :=
    fun f hf => normalizeField_alike hgiven (hcheck f hf)
  have hall : Checked.Alike (fun _ _ => True) (r.normalizeFields check given)
      (r.normalizeFields check given') := by
    refine Checked.Alike.map (R := List.Forall₂ fun _ _ => True) (Checked.Alike.gather ?_)
      fun _ _ _ => trivial
    rw [List.forall₂_map_left_iff, List.forall₂_map_right_iff, List.forall₂_same]
    exact fun f hf => (hfield f hf).imp fun _ _ _ _ _ => trivial
  refine hall.imp fun out out' hout hout' _ f hf => ?_
  have hboth := hfield f hf
  rw [((normalizeFields_eq_ok_iff hr).1 hout).1 f hf,
    ((normalizeFields_eq_ok_iff hr).1 hout').1 f hf] at hboth
  exact rel_of_map (S := fun (p p' : String × Value) => alike f.type p.2 p'.2) hboth.of_ok

end Fields

/-- Values that differ in the order of fields come to records that hold the same under the declared
keys, or have the same issues. -/
theorem normalize_alike (hr : r.IsProper) (hcheck : ∀ f ∈ r.fields, ∀ v v', v.Reordered v' →
    Checked.Alike (alike f.type) (check f.type v) (check f.type v')) (h : v.Reordered v') :
    Checked.Alike (r.Alike alike) (r.normalize check v) (r.normalize check v') := by
  cases h with
  | obj hgiven =>
    have hfields := normalizeFields_alike hgiven hr hcheck
    exact hfields.map fun out out' hout => ⟨out, out', rfl, rfl, hout⟩
  | _ => exact .problem _ _ _

end Record

section List

variable {check : Value → Checked Value} {alike : Value → Value → Prop} {v v' : Value}

/-- Lists are checked item by item. -/
theorem checkList_alike (hcheck : ∀ v v', v.Reordered v' → Checked.Alike alike (check v) (check v'))
    (h : v.Reordered v') :
    Checked.Alike (ItemByItem alike) (checkList check v) (checkList check v') := by
  cases h with
  | arr hitems =>
    refine Checked.Alike.map (Checked.Alike.gather (R := alike) ?_)
      fun out out' hout => ⟨out, out', rfl, rfl, hout⟩
    rw [List.forall₂_map_left_iff, List.forall₂_map_right_iff]
    refine (forall₂_zipIdx hitems 0).imp ?_
    rintro ⟨item, i⟩ ⟨item', j⟩ ⟨hitem, hindex⟩
    obtain rfl : i = j := hindex
    exact (hcheck item item' hitem).under (.index i)
  | _ => exact .problem _ _ _

end List

/-! ### Descriptions -/

/-- A simple field is of no shape that could be reordered. -/
lemma Scalar.check_alike (t : Scalar) {v v' : Value} (h : v.Reordered v') :
    Checked.Alike Eq (t.check v) (t.check v') := by
  cases h with
  | arr _ | obj _ => cases t <;> exact .error rfl
  | _ => exact .same (fun _ => rfl) _

/-- Whether two values of a field of a normalized entry are the same under the declared keys. -/
def EntryType.Alike : EntryType → Value → Value → Prop
  | .settings record, v, v' => record.Alike (fun _ => Eq) v v'
  | _, v, v' => v = v'

lemma eq_of_itemByItem {v v' : Value} (h : ItemByItem Eq v v') : v = v' := by
  obtain ⟨items, items', rfl, rfl, hitems⟩ := h
  exact congrArg Value.arr (List.forall₂_eq_eq_eq ▸ hitems)

lemma EntryType.check_alike {t : EntryType} (ht : t.IsProper) {v v' : Value}
    (h : v.Reordered v') : Checked.Alike t.Alike (t.check v) (t.check v') := by
  cases t with
  | scalar type => exact type.check_alike h
  | labels =>
    have htexts : Checked.Alike (ItemByItem Eq) (checkList Scalar.checkText v)
        (checkList Scalar.checkText v') :=
      checkList_alike (fun _ _ hv => Scalar.check_alike .text hv) h
    exact htexts.imp fun _ _ _ _ hw => eq_of_itemByItem hw
  | settings record =>
    show Checked.Alike (record.Alike fun _ => Eq) _ _
    exact normalize_alike ht (fun f _ _ _ hv => f.type.check_alike hv) h

/-- Whether two normalized descriptions are the same under the declared keys: they list as many
entries, with the same fields as far as these are declared. -/
def DescriptionAlike : Value → Value → Prop :=
  hardware.Alike fun record => ItemByItem (record.Alike EntryType.Alike)

/-- The order in which a description gives its fields, and those of its entries, matters neither to
what is declared nor to the issues. -/
theorem normalizeHardware_alike {v v' : Value} (h : v.Reordered v') :
    Checked.Alike DescriptionAlike (normalizeHardware v) (normalizeHardware v') := by
  refine normalize_alike hardware_isProper.1 (fun f hf v v' hv => ?_) h
  obtain ⟨hrecord, hentry⟩ := hardware_isProper.2 f hf
  refine checkList_alike (fun v v' hv => ?_) hv
  exact normalize_alike hrecord (fun g hg v v' hv => EntryType.check_alike (hentry g hg) hv) hv

end Schema

end ControlSurface
