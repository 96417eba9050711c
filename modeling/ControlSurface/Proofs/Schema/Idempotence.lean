import ControlSurface.Proofs.Entries

/-!
# Normalizing twice

A normalized record is told from what it holds: its declared fields, then the extras of what was
given. So it can be said when it stays as it is if it is normalized again. The one thing that can
go wrong is a field that is null under its proper spelling, but something else under its name: what
is found under the name is kept as an extra, and is taken for the field the next time.
-/

namespace ControlSurface.Schema

variable {τ : Type} {check : τ → Value → Checked Value} {r : Record τ} {f : Field τ}
  {given out : List (String × Value)}

/-- Whether an object gives null for a field under its proper spelling, and something else under
its name. -/
def Field.IsHidden (f : Field τ) (given : List (String × Value)) : Prop :=
  f.name ≠ f.spelling ∧ given.lookup f.spelling = some .null ∧
    ∃ w, (f.name, w) ∈ given ∧ w.isNull = false

/-- Whether the fields of a record can be told apart by either of their names, and no check makes a
null. -/
structure Record.IsSound (check : τ → Value → Checked Value) (r : Record τ) : Prop where
  proper : r.IsProper
  spelling_eq : ∀ f ∈ r.fields, ∀ g ∈ r.fields, f.name = g.name ∨ f.name = g.spelling →
    f.spelling = g.spelling
  not_null : ∀ f ∈ r.fields, ∀ v, check f.type v ≠ .ok .null

/-! ### What is found under the names of a field -/

lemma isNull_eq_false_iff {v : Value} : v.isNull = false ↔ v ≠ .null := by
  cases v <;> simp [Value.isNull]

lemma eq_null_of_isNull {v : Value} (h : v.isNull = true) : v = .null := by
  cases v <;> simp_all [Value.isNull]

lemma keyIn?_of_lookup {w : Value} (h : given.lookup f.spelling = some w) :
    f.keyIn? given = some f.spelling := by
  simp [Field.keyIn?, h]

lemma keyIn?_of_lookup_name (h : given.lookup f.spelling = none) {w : Value}
    (hname : given.lookup f.name = some w) : f.keyIn? given = some f.name := by
  simp [Field.keyIn?, h, hname]

lemma keyIn?_eq_none (h : given.lookup f.spelling = none) (hname : given.lookup f.name = none) :
    f.keyIn? given = none := by
  simp [Field.keyIn?, h, hname]

/-- The name of a field is used only if its proper spelling does not occur. -/
lemma lookup_of_keyIn? {key : String} (h : f.keyIn? given = some key) :
    key = f.spelling ∧ (given.lookup key).isSome ∨
      key = f.name ∧ given.lookup f.spelling = none ∧ (given.lookup key).isSome := by
  cases hspelling : given.lookup f.spelling with
  | some w =>
    rw [keyIn?_of_lookup hspelling, Option.some_inj] at h
    subst h
    exact .inl ⟨rfl, by rw [hspelling]; rfl⟩
  | none =>
    cases hname : given.lookup f.name with
    | some w =>
      rw [keyIn?_of_lookup_name hspelling hname, Option.some_inj] at h
      subst h
      exact .inr ⟨rfl, rfl, by rw [hname]; rfl⟩
    | none =>
      rw [keyIn?_eq_none hspelling hname] at h
      cases h

lemma normalizeField_of_keyIn? {key : String} {w : Value} (hkey : f.keyIn? given = some key)
    (hw : given.lookup key = some w) (hnull : w.isNull = false) :
    Record.normalizeField check given f =
      (Checked.under (.key key) (check f.type w)).map fun checked =>
        some (f.spelling, checked) := by
  cases w <;> simp_all [Record.normalizeField, Value.isNull]

lemma normalizeField_ne_none {key : String} {w : Value} (hkey : f.keyIn? given = some key)
    (hw : given.lookup key = some w) (hnull : w.isNull = false) :
    Record.normalizeField check given f ≠ .ok none := by
  rw [normalizeField_of_keyIn? hkey hw hnull]
  intro h
  obtain ⟨checked, -, hsome⟩ := Checked.map_eq_ok_iff.1 h
  cases hsome

lemma normalizeField_of_null (h : given.lookup f.spelling = some .null) :
    Record.normalizeField check given f = .ok none := by
  simp [Record.normalizeField, keyIn?_of_lookup h, h]

/-- An extra is not null, and its key is not used for any field. -/
lemma mem_extras {p : String × Value} : p ∈ r.extras given ↔
    p ∈ given ∧ (∀ f ∈ r.fields, f.keyIn? given ≠ some p.1) ∧ p.2.isNull = false := by
  simp [Record.extras]

/-! ### Normalized records -/

/-- The declared fields of an object, in the order of their declaration. -/
def Record.declaredIn (r : Record τ) (fields : List (String × Value)) : List (String × Value) :=
  r.fields.filterMap fun f => (fields.lookup f.spelling).map (f.spelling, ·)

lemma lookup_of_mem_declaredIn {p : String × Value} (h : p ∈ r.declaredIn out) :
    ∃ f ∈ r.fields, p.1 = f.spelling ∧ out.lookup f.spelling = some p.2 := by
  obtain ⟨f, hf, hsome⟩ := List.mem_filterMap.1 h
  obtain ⟨w, hw, rfl⟩ := Option.map_eq_some_iff.1 hsome
  exact ⟨f, hf, rfl, hw⟩

/-- What stands for one of several fields is found by its spelling. -/
lemma lookup_filterMap {fields : List (Field τ)} (hproper : (fields.map Field.spelling).Nodup)
    {o : Field τ → Option (String × Value)}
    (ho : ∀ f ∈ fields, ∀ p, o f = some p → p.1 = f.spelling) (hf : f ∈ fields) :
    ((fields.filterMap o).lookup f.spelling).map (f.spelling, ·) = o f := by
  induction fields with
  | nil => exact absurd hf List.not_mem_nil
  | cons g rest ih =>
    obtain ⟨hfresh, hrest⟩ := List.nodup_cons.1 hproper
    obtain ⟨hog, horest⟩ := List.forall_mem_cons.1 ho
    have hnone : (rest.filterMap o).lookup g.spelling = none := by
      rw [List.lookup_eq_none_iff]
      intro p hp
      obtain ⟨f, hf, hsome⟩ := List.mem_filterMap.1 hp
      rw [bne_iff_ne, horest f hf p hsome]
      intro heq
      exact hfresh (heq ▸ List.mem_map_of_mem hf)
    rcases List.mem_cons.1 hf with rfl | hf
    · cases hof : o f with
      | none => rw [List.filterMap_cons_none hof, hnone, Option.map_none]
      | some p =>
        obtain ⟨key, w⟩ := p
        obtain rfl : key = f.spelling := hog _ hof
        rw [List.filterMap_cons_some hof, List.lookup_cons_self, Option.map_some]
    · have hne : (f.spelling == g.spelling) = false := by
        rw [beq_eq_false_iff_ne]
        intro heq
        exact hfresh (heq ▸ List.mem_map_of_mem hf)
      cases hog' : o g with
      | none => rw [List.filterMap_cons_none hog', ih hrest horest hf]
      | some p =>
        obtain ⟨key, w⟩ := p
        obtain rfl : key = g.spelling := hog _ hog'
        rw [List.filterMap_cons_some hog', List.lookup_cons, hne]
        exact ih hrest horest hf

/-- What becomes of a field is what its check makes of what was given for it. If it has a second
name, nothing may be found under that alone. -/
lemma eq_some_iff_of_normalizeField
    (hname : given.lookup f.spelling = none → given.lookup f.name = none) {o : Option Value}
    (h : Record.normalizeField check given f = .ok (o.map (f.spelling, ·))) {w : Value} :
    o = some w ↔ ∃ v, given.lookup f.spelling = some v ∧ v.isNull = false ∧
      check f.type v = .ok w := by
  have hmissing (hnone : Record.normalizeField check given f = .ok none) : o = none := by
    rw [hnone] at h
    simpa using h.symm
  cases hgiven : given.lookup f.spelling with
  | none =>
    have hnone := hmissing (by
      simp [Record.normalizeField, keyIn?_eq_none hgiven (hname hgiven)])
    simp [hnone]
  | some v =>
    cases hnull : v.isNull with
    | true =>
      obtain rfl := eq_null_of_isNull hnull
      simp [hmissing (normalizeField_of_null hgiven), Value.isNull]
    | false =>
      rw [normalizeField_of_keyIn? (keyIn?_of_lookup hgiven) hgiven hnull] at h
      obtain ⟨checked, hchecked, hsome⟩ := Checked.map_eq_ok_iff.1 h
      rw [Checked.under_eq_ok_iff] at hchecked
      obtain ⟨w', rfl, hw'⟩ := Option.map_eq_some_iff.1 hsome.symm
      obtain rfl : w' = checked := congrArg Prod.snd hw'
      simp [hnull, hchecked]

/-- The case of a field with one name. -/
lemma eq_some_iff_of_plain (hname : f.name = f.spelling) {o : Option Value}
    (h : Record.normalizeField check given f = .ok (o.map (f.spelling, ·))) {w : Value} :
    o = some w ↔ ∃ v, given.lookup f.spelling = some v ∧ v.isNull = false ∧
      check f.type v = .ok w :=
  eq_some_iff_of_normalizeField (fun hnone => hname ▸ hnone) h

/-- Whether an object is what a record makes of another one, in terms of what it holds. -/
theorem normalizeFields_eq_ok_iff (hr : r.IsProper) :
    r.normalizeFields check given = .ok out ↔
      (∀ f ∈ r.fields, Record.normalizeField check given f =
        .ok ((out.lookup f.spelling).map (f.spelling, ·))) ∧
      out = r.declaredIn out ++ r.extras given := by
  constructor
  · intro h
    obtain ⟨declared, hdeclared, rfl⟩ := Checked.map_eq_ok_iff.1 h
    obtain ⟨o, hfield, rfl⟩ := Checked.gather_map_eq_ok_iff.1 hdeclared
    have hlookup : ∀ f ∈ r.fields, (((r.fields.map o).filterMap id ++ r.extras given).lookup
        f.spelling).map (f.spelling, ·) = o f := by
      intro f hf
      rw [List.lookup_append, lookup_extras r given hf, Option.or_none, List.filterMap_map]
      refine lookup_filterMap hr (fun f hf p hp => ?_) hf
      exact (normalizeField_eq_ok ((hfield f hf).trans (congrArg _ hp))).1
    refine ⟨fun f hf => by rw [hlookup f hf, hfield f hf], ?_⟩
    rw [Record.declaredIn, List.filterMap_congr hlookup, List.filterMap_map]
    rfl
  · rintro ⟨hfield, hout⟩
    rw [Record.normalizeFields, Checked.gather_map_eq_ok_iff.2 ⟨_, hfield, rfl⟩, Except.map,
      List.filterMap_map]
    exact congrArg _ hout.symm

/-! ### Records that stay as they are -/

/-- Nothing that a normalized record holds is null. -/
lemma isNull_of_mem (hr : r.IsSound check) (h : r.normalizeFields check given = .ok out)
    {p : String × Value} (hp : p ∈ out) : p.2.isNull = false := by
  obtain ⟨hfield, hout⟩ := (normalizeFields_eq_ok_iff hr.proper).1 h
  rw [hout] at hp
  rcases List.mem_append.1 hp with hp | hp
  · obtain ⟨f, hf, -, hlookup⟩ := lookup_of_mem_declaredIn hp
    have hsome := hfield f hf
    rw [hlookup] at hsome
    obtain ⟨-, v, hv⟩ := normalizeField_eq_ok hsome
    rw [isNull_eq_false_iff]
    intro hnull
    exact hr.not_null f hf v (hv.trans (congrArg _ hnull))
  · exact (mem_extras.1 hp).2.2

/-- What a field has to fulfil to stay as it is: its value does, and if it is not there, nothing
else is found under its name. -/
lemma normalizeField_self_iff (hnull : ∀ p ∈ out, p.2.isNull = false) :
    Record.normalizeField check out f = .ok ((out.lookup f.spelling).map (f.spelling, ·)) ↔
      (∀ w, out.lookup f.spelling = some w → check f.type w = .ok w) ∧
      (out.lookup f.spelling = none → out.lookup f.name = none) := by
  cases hspelling : out.lookup f.spelling with
  | some w =>
    rw [normalizeField_of_keyIn? (keyIn?_of_lookup hspelling) hspelling
      (hnull _ (mem_of_lookup hspelling)), Checked.map_eq_ok_iff]
    simp [Checked.under_eq_ok_iff]
  | none =>
    cases hname : out.lookup f.name with
    | none => simp [Record.normalizeField, keyIn?_eq_none hspelling hname]
    | some w =>
      have hne : Record.normalizeField check out f ≠ .ok none :=
        normalizeField_ne_none (keyIn?_of_lookup_name hspelling hname) hname
          (hnull _ (mem_of_lookup hname))
      simp [hne]

/-- A hidden field is not there after normalization, but something is found under its name. -/
lemma lookup_of_isHidden (hr : r.IsSound check) (h : r.normalizeFields check given = .ok out)
    (hf : f ∈ r.fields) (hhidden : f.IsHidden given) :
    out.lookup f.spelling = none ∧ out.lookup f.name ≠ none := by
  obtain ⟨hfield, hout⟩ := (normalizeFields_eq_ok_iff hr.proper).1 h
  obtain ⟨hne, hspelling, w, hw, hnull⟩ := hhidden
  have hmissing : out.lookup f.spelling = none := by
    have hnone := hfield f hf
    rw [normalizeField_of_null hspelling] at hnone
    simpa using hnone.symm
  have hunused : ∀ g ∈ r.fields, g.keyIn? given ≠ some f.name := by
    intro g hg hkey
    rcases lookup_of_keyIn? hkey with ⟨heq, -⟩ | ⟨heq, hnone, -⟩
    · exact hne (heq.trans (hr.spelling_eq f hf g hg (.inr heq)).symm)
    · rw [← hr.spelling_eq f hf g hg (.inl heq), hspelling] at hnone
      cases hnone
  have hmem : (f.name, w) ∈ out := by
    rw [hout]
    exact List.mem_append_right _ (mem_extras.2 ⟨hw, hunused, hnull⟩)
  exact ⟨hmissing, fun hname => bne_iff_ne.1 (List.lookup_eq_none_iff.1 hname _ hmem) rfl⟩

/-- A field that comes to nothing, although something under its name is kept as an extra, was
hidden. -/
lemma isHidden_of_mem_extras (hf : f ∈ r.fields) (hne : f.name ≠ f.spelling)
    (hnone : Record.normalizeField check given f = .ok none) {w : Value}
    (hw : (f.name, w) ∈ r.extras given) : f.IsHidden given := by
  obtain ⟨hgiven, hunused, hnull⟩ := mem_extras.1 hw
  cases hspelling : given.lookup f.spelling with
  | none =>
    -- The name was used for the field, so that it is not among the extras.
    obtain ⟨w', hw'⟩ := Option.isSome_iff_exists.1
      (List.lookup_isSome_iff.2 ⟨_, hgiven, beq_self_eq_true f.name⟩)
    exact absurd (keyIn?_of_lookup_name hspelling hw') (hunused f hf)
  | some v =>
    cases hv : v.isNull with
    | true =>
      obtain rfl := eq_null_of_isNull hv
      exact ⟨hne, hspelling, w, hgiven, hnull⟩
    | false => exact absurd hnone (normalizeField_ne_none (keyIn?_of_lookup hspelling) hspelling hv)

/-- If a field is not there after normalization, nothing is found under its name unless it was
hidden. -/
lemma lookup_name_eq_none_iff (hr : r.IsSound check)
    (h : r.normalizeFields check given = .ok out) (hf : f ∈ r.fields) :
    (out.lookup f.spelling = none → out.lookup f.name = none) ↔ ¬f.IsHidden given := by
  constructor
  · intro himp hhidden
    obtain ⟨hmissing, hname⟩ := lookup_of_isHidden hr h hf hhidden
    exact hname (himp hmissing)
  · intro hhidden hmissing
    by_contra hname
    obtain ⟨hfield, hout⟩ := (normalizeFields_eq_ok_iff hr.proper).1 h
    have hne : f.name ≠ f.spelling := by
      intro heq
      exact hname (heq ▸ hmissing)
    have hnone : Record.normalizeField check given f = .ok none := by
      rw [hfield f hf, hmissing]
      rfl
    obtain ⟨w, hw⟩ := Option.ne_none_iff_exists'.1 hname
    have hmem := mem_of_lookup hw
    rw [hout] at hmem
    rcases List.mem_append.1 hmem with hmem | hmem
    · obtain ⟨g, hg, heq, -⟩ := lookup_of_mem_declaredIn hmem
      exact hne (heq.trans (hr.spelling_eq f hf g hg (.inr heq)).symm)
    · exact hhidden (isHidden_of_mem_extras hf hne hnone hmem)

/-- The extras stay extras unless a field was hidden. -/
lemma extras_self (hr : r.IsSound check) (h : r.normalizeFields check given = .ok out)
    (hnone : ∀ f ∈ r.fields, out.lookup f.spelling = none → out.lookup f.name = none) :
    r.extras out = r.extras given := by
  obtain ⟨-, hout⟩ := (normalizeFields_eq_ok_iff hr.proper).1 h
  have hdeclared : ∀ p ∈ r.declaredIn out, ∃ f ∈ r.fields, f.keyIn? out = some p.1 := by
    intro p hp
    obtain ⟨f, hf, heq, hlookup⟩ := lookup_of_mem_declaredIn hp
    exact ⟨f, hf, heq ▸ keyIn?_of_lookup hlookup⟩
  have hextra : ∀ p ∈ r.extras given, ∀ f ∈ r.fields, f.keyIn? out ≠ some p.1 := by
    intro p hp f hf hkey
    rcases lookup_of_keyIn? hkey with ⟨heq, -⟩ | ⟨heq, hmissing, hsome⟩
    · exact absurd heq.symm
        (bne_iff_ne.1 (List.lookup_eq_none_iff.1 (lookup_extras r given hf) p hp))
    · rw [heq, hnone f hf hmissing] at hsome
      cases hsome
  set keeps : String × Value → Bool := fun p =>
    !(r.fields.filterMap fun f => f.keyIn? out).contains p.1 && !p.2.isNull with hkeeps
  calc r.extras out = out.filter keeps := rfl
    _ = (r.declaredIn out ++ r.extras given).filter keeps := congrArg _ hout
    _ = r.extras given := by
      rw [List.filter_append, List.filter_eq_nil_iff.2, List.filter_eq_self.2, List.nil_append]
      · intro p hp
        simpa [hkeeps, (mem_extras.1 hp).2.2] using hextra p hp
      · intro p hp
        obtain ⟨f, hf, hkey⟩ := hdeclared p hp
        simpa [hkeeps] using fun hfresh => absurd hkey (hfresh f hf)

/-- A normalized record stays as it is if and only if all its declared fields do and none was
hidden. -/
theorem normalizeFields_self_iff (hr : r.IsSound check)
    (h : r.normalizeFields check given = .ok out) :
    r.normalizeFields check out = .ok out ↔
      (∀ f ∈ r.fields, ∀ w, out.lookup f.spelling = some w → check f.type w = .ok w) ∧
      ∀ f ∈ r.fields, ¬f.IsHidden given := by
  obtain ⟨-, hout⟩ := (normalizeFields_eq_ok_iff hr.proper).1 h
  rw [normalizeFields_eq_ok_iff hr.proper, ← forall₂_and]
  constructor
  · rintro ⟨hfield, -⟩ f hf
    rw [← lookup_name_eq_none_iff hr h hf]
    exact (normalizeField_self_iff fun p => isNull_of_mem hr h).1 (hfield f hf)
  · intro hself
    have hfield : ∀ f ∈ r.fields, (∀ w, out.lookup f.spelling = some w → check f.type w = .ok w) ∧
        (out.lookup f.spelling = none → out.lookup f.name = none) := by
      intro f hf
      rw [lookup_name_eq_none_iff hr h hf]
      exact hself f hf
    refine ⟨fun f hf => (normalizeField_self_iff fun p => isNull_of_mem hr h).2 (hfield f hf), ?_⟩
    rw [extras_self hr h fun f hf => (hfield f hf).2]
    exact hout

/-- Whether a value is an object in which some field of a record is hidden. -/
def Record.Hides (r : Record τ) (v : Value) : Prop :=
  ∃ fields, v = .obj fields ∧ ∃ f ∈ r.fields, f.IsHidden fields

/-- If the outcomes of all checks stay as they are, so does a normalized record in which no field
was hidden. -/
theorem normalize_self_iff (hr : r.IsSound check)
    (hcheck : ∀ f ∈ r.fields, ∀ v w, check f.type v = .ok w → check f.type w = .ok w) {v w : Value}
    (h : r.normalize check v = .ok w) : r.normalize check w = .ok w ↔ ¬r.Hides v := by
  cases v with
  | obj given =>
    obtain ⟨out, hout, rfl⟩ := Checked.map_eq_ok_iff.1 h
    have hself : ∀ f ∈ r.fields, ∀ w, out.lookup f.spelling = some w → check f.type w = .ok w := by
      intro f hf w hw
      have hfield := ((normalizeFields_eq_ok_iff hr.proper).1 hout).1 f hf
      rw [hw] at hfield
      obtain ⟨-, v, hv⟩ := normalizeField_eq_ok hfield
      exact hcheck f hf v w hv
    have hobj : r.normalize check (.obj out) = .ok (.obj out) ↔
        r.normalizeFields check out = .ok out := by
      simp [Record.normalize, Checked.map_eq_ok_iff]
    rw [hobj, normalizeFields_self_iff hr hout, and_iff_right hself]
    simp [Record.Hides]
  | _ => cases h

/-- No field is hidden in what a record has been normalized to. -/
lemma not_hides_of_normalize (hr : r.IsSound check) {v w : Value}
    (h : r.normalize check v = .ok w) : ¬r.Hides w := by
  rintro ⟨out, rfl, f, -, -, hnull, -⟩
  cases v with
  | obj given =>
    obtain ⟨fields, hfields, heq⟩ := Checked.map_eq_ok_iff.1 h
    obtain rfl : fields = out := Value.obj.inj heq
    cases isNull_of_mem hr hfields (mem_of_lookup hnull)
  | _ => cases h

/-- Whether the fields of a record have only one name each. -/
def Record.IsPlain (r : Record τ) : Prop := ∀ f ∈ r.fields, f.name = f.spelling

instance (r : Record τ) : Decidable r.IsPlain := inferInstanceAs (Decidable (∀ f ∈ r.fields, _))

lemma Record.IsPlain.not_hides (hplain : r.IsPlain) (v : Value) : ¬r.Hides v := by
  rintro ⟨fields, -, f, hf, hne, -⟩
  exact hne (hplain f hf)

lemma Record.IsPlain.isSound (hplain : r.IsPlain) (hproper : r.IsProper)
    (hnull : ∀ f ∈ r.fields, ∀ v, check f.type v ≠ .ok .null) : r.IsSound check where
  proper := hproper
  spelling_eq f hf g hg heq := by
    rw [← hplain f hf, ← hplain g hg]
    exact heq.elim id fun h => h.trans (hplain g hg).symm
  not_null := hnull

/-! ### Lists that stay as they are -/

section List

variable {check : Value → Checked Value} {P : Value → Prop}

lemma checkList_ne_null (v : Value) : checkList check v ≠ .ok .null := by
  intro h
  have hfits : ∀ v w, check v = .ok w → True := fun _ _ _ => trivial
  obtain ⟨items, hitems, -⟩ := checkList_fits hfits h
  cases hitems

lemma forall_mem_zipIdx {l : List Value} : (∀ p ∈ l.zipIdx, P p.1) ↔ ∀ v ∈ l, P v := by
  conv_rhs => rw [← List.zipIdx_map_fst 0 l]
  exact List.forall_mem_map.symm

lemma checkList_arr_self_iff {l : List Value} :
    checkList check (.arr l) = .ok (.arr l) ↔ ∀ v ∈ l, check v = .ok v := by
  have hmap : l.map Except.ok = l.zipIdx.map fun p => (.ok p.1 : Checked Value) := by
    conv_lhs => rw [← List.zipIdx_map_fst 0 l, List.map_map]
    rfl
  have hgather : checkList check (.arr l) = .ok (.arr l) ↔
      Checked.gather (l.zipIdx.map fun p => (check p.1).under (.index p.2)) = .ok l := by
    simp [checkList, Checked.map_eq_ok_iff]
  rw [hgather, Checked.gather_eq_ok_iff, hmap, List.map_inj_left, ← forall_mem_zipIdx]
  simp only [Checked.under_eq_ok_iff]

/-- A list that has been checked stays as it is if all of its items do. -/
lemma checkList_self_iff (hP : ∀ v w, check v = .ok w → (check w = .ok w ↔ P v))
    {items : List Value} {w : Value} (h : checkList check (.arr items) = .ok w) :
    checkList check w = .ok w ↔ ∀ item ∈ items, P item := by
  obtain ⟨checked, hchecked, rfl⟩ := Checked.map_eq_ok_iff.1 h
  obtain ⟨o, ho, rfl⟩ := Checked.gather_map_eq_ok_iff.1 hchecked
  rw [checkList_arr_self_iff, List.forall_mem_map, ← forall_mem_zipIdx]
  refine forall₂_congr fun p hp => hP p.1 (o p) ?_
  exact Checked.under_eq_ok_iff.1 (ho p hp)

lemma eq_arr_of_checkList {v w : Value} (h : checkList check v = .ok w) :
    ∃ items, v = .arr items := by
  cases v with
  | arr items => exact ⟨items, rfl⟩
  | _ => cases h

end List

/-! ### Descriptions that stay as they are -/

lemma Scalar.check_self {t : Scalar} {v : Value} (h : t.Fits v) : t.check v = .ok v := by
  cases t with
  | text =>
    obtain ⟨s, rfl⟩ := h
    rfl
  | flag =>
    obtain ⟨b, rfl⟩ := h
    rfl
  | pin => rcases h with ⟨s, rfl⟩ | ⟨n, rfl⟩ <;> rfl

lemma Scalar.check_again (t : Scalar) {v w : Value} (h : t.check v = .ok w) :
    t.check w = .ok w :=
  Scalar.check_self (t.check_fits h)

lemma Scalar.check_ne_null (t : Scalar) (v : Value) : t.check v ≠ .ok .null := by
  intro h
  have hfits := t.check_fits h
  cases t with
  | text => exact absurd hfits (by simp [Scalar.Fits])
  | flag => exact absurd hfits (by simp [Scalar.Fits])
  | pin => exact absurd hfits (by simp [Scalar.Fits])

/-- Whether the settings that a field holds have only one name each. -/
def EntryType.IsPlain : EntryType → Prop
  | .settings record => record.IsPlain
  | _ => True

instance : (t : EntryType) → Decidable t.IsPlain
  | .settings record => inferInstanceAs (Decidable record.IsPlain)
  | .scalar _ => .isTrue trivial
  | .labels => .isTrue trivial

lemma normalize_ne_null (v : Value) : r.normalize check v ≠ .ok .null := by
  cases v with
  | obj given =>
    intro h
    obtain ⟨out, -, hout⟩ := Checked.map_eq_ok_iff.1 h
    cases hout
  | _ => exact fun h => nomatch h

lemma EntryType.check_ne_null (t : EntryType) (v : Value) : t.check v ≠ .ok .null := by
  cases t with
  | scalar type => exact type.check_ne_null v
  | labels => exact checkList_ne_null v
  | settings record => exact normalize_ne_null v

/-- What has been accepted for a field of an entry is accepted as it is. -/
lemma EntryType.check_again {t : EntryType} (hproper : t.IsProper) (hplain : t.IsPlain)
    {v w : Value} (h : t.check v = .ok w) : t.check w = .ok w := by
  cases t with
  | scalar type => exact type.check_again h
  | labels =>
    obtain ⟨items, rfl⟩ := eq_arr_of_checkList h
    have hself : ∀ v w, Scalar.checkText v = .ok w → (Scalar.checkText w = .ok w ↔ True) :=
      fun v w hw => iff_true_intro (Scalar.check_again .text hw)
    exact (checkList_self_iff hself h).2 fun _ _ => trivial
  | settings record =>
    have hsound : record.IsSound Scalar.check :=
      Record.IsPlain.isSound hplain hproper fun f _ => f.type.check_ne_null
    exact (normalize_self_iff hsound (fun f _ _ _ => f.type.check_again) h).2
      (Record.IsPlain.not_hides hplain v)

/-- Only displays have a field with two names. -/
lemma isPlain_or_display : ∀ f ∈ hardware.fields,
    f.type.IsPlain ∨ f = .plain "oled_displays" display := by
  intro f hf
  simp only [hardware, List.mem_cons, List.not_mem_nil, or_false] at hf
  rcases hf with rfl | rfl | rfl | rfl | rfl | rfl | rfl | rfl | rfl | rfl | rfl
  case inr.inr.inr.inr.inr.inr.inr.inr.inl => exact .inr rfl
  all_goals exact .inl (by decide)

/-- Whether a description has a display of which the settings of the serial transport are null
under their proper spelling, and something else under their other name. -/
def HidesSettings (v : Value) : Prop :=
  ∃ fields, .obj fields ∈ Description.listed v "oled_displays" ∧
    fields.lookup "4_wire_spi_config" = some .null ∧
    ∃ w, ("spi_config", w) ∈ fields ∧ w.isNull = false

/-- The field of a display that has two names. -/
lemma eq_of_mem_display {f : Field EntryType} (hf : f ∈ display.fields)
    (hne : f.name ≠ f.spelling) : f.name = "spi_config" ∧ f.spelling = "4_wire_spi_config" := by
  simp only [display, entry, List.mem_cons, List.not_mem_nil, or_false] at hf
  rcases hf with rfl | rfl | rfl | rfl | rfl | rfl
  case inr.inr.inr.inr.inl => exact ⟨rfl, rfl⟩
  all_goals exact absurd rfl hne

lemma exists_hides_iff {v : Value} : (∃ f ∈ hardware.fields,
    ∃ e ∈ Description.listed v f.spelling, f.type.Hides e) ↔ HidesSettings v := by
  constructor
  · rintro ⟨f, hf, e, he, hhides⟩
    rcases isPlain_or_display f hf with hplain | rfl
    · exact absurd hhides (hplain.not_hides e)
    · obtain ⟨fields, rfl, g, hg, hne, hnull, w, hw⟩ := hhides
      obtain ⟨hname, hspelling⟩ := eq_of_mem_display hg hne
      exact ⟨fields, he, hspelling ▸ hnull, w, hname ▸ hw⟩
  · rintro ⟨fields, he, hnull, w, hw⟩
    have hmem : ⟨"spi_config", some "4_wire_spi_config", .settings spiSettings⟩ ∈
        display.fields := by
      simp [display, entry]
    exact ⟨.plain "oled_displays" display, by simp [hardware], _, he, fields, rfl, _, hmem,
      by decide, hnull, w, hw⟩

/-- In a description all names can be told apart, and only entries have fields with two of them. -/
lemma hardware_isPlain : hardware.IsPlain ∧ ∀ f ∈ hardware.fields,
    (∀ g ∈ f.type.fields, g.type.IsPlain) ∧ ∀ g ∈ f.type.fields, ∀ g' ∈ f.type.fields,
      g.name = g'.name ∨ g.name = g'.spelling → g.spelling = g'.spelling := by
  decide

lemma isSound_of_mem_hardware {f : Field (Record EntryType)} (hf : f ∈ hardware.fields) :
    f.type.IsSound EntryType.check where
  proper := (hardware_isProper.2 f hf).1
  spelling_eq := (hardware_isPlain.2 f hf).2
  not_null g _ := g.type.check_ne_null

/-- A list of entries that have been normalized stays as it is unless a field of one was hidden. -/
lemma checkEntries_self_iff {f : Field (Record EntryType)} (hf : f ∈ hardware.fields)
    {items : List Value} {w : Value} (h : checkEntries f.type (.arr items) = .ok w) :
    checkEntries f.type w = .ok w ↔ ∀ e ∈ items, ¬f.type.Hides e := by
  refine checkList_self_iff (fun v w hw => ?_) h
  refine normalize_self_iff (isSound_of_mem_hardware hf) (fun g hg v w => ?_) hw
  exact EntryType.check_again ((hardware_isProper.2 f hf).2 g hg) ((hardware_isPlain.2 f hf).1 g hg)

lemma mem_listed {fields : List (String × Value)} {key : String} {e : Value} :
    e ∈ Description.listed (.obj fields) key ↔
      ∃ items, fields.lookup key = some (.arr items) ∧ e ∈ items := by
  rw [Description.listed]
  cases hlookup : fields.lookup key with
  | none => simp
  | some w => cases w <;> simp

/-- All lists of a normalized description stay as they are unless a field of an entry was hidden. -/
lemma forall_checkEntries_self_iff {given : List (String × Value)} {o : Option Value}
    {f : Field (Record EntryType)} (hf : f ∈ hardware.fields)
    (h : Record.normalizeField checkEntries given f = .ok (o.map (f.spelling, ·))) :
    (∀ w, o = some w → checkEntries f.type w = .ok w) ↔
      ∀ e ∈ Description.listed (.obj given) f.spelling, ¬f.type.Hides e := by
  have hsome {w : Value} := eq_some_iff_of_plain (hardware_isPlain.1 f hf) h (w := w)
  constructor
  · intro hself e he
    obtain ⟨items, hitems, hmem⟩ := mem_listed.1 he
    cases o with
    | none => exact absurd h (normalizeField_ne_none (keyIn?_of_lookup hitems) hitems rfl)
    | some w =>
      obtain ⟨v, hv, -, hw⟩ := hsome.1 rfl
      obtain rfl : v = .arr items := Option.some_inj.1 (hv.symm.trans hitems)
      exact (checkEntries_self_iff hf hw).1 (hself w rfl) e hmem
  · rintro hhides w hw
    obtain ⟨v, hv, -, hcheck⟩ := hsome.1 hw
    obtain ⟨items, rfl⟩ := eq_arr_of_checkList hcheck
    exact (checkEntries_self_iff hf hcheck).2 fun e he => hhides e (mem_listed.2 ⟨items, hv, he⟩)

lemma hardware_isSound : hardware.IsSound checkEntries :=
  hardware_isPlain.1.isSound hardware_isProper.1 fun _ _ => checkList_ne_null

lemma normalizeHardware_self_iff {v d : Value} (h : normalizeHardware v = .ok d) :
    normalizeHardware d = .ok d ↔ ¬HidesSettings v := by
  rw [← exists_hides_iff]
  cases v with
  | obj given =>
    obtain ⟨out, hout, rfl⟩ := Checked.map_eq_ok_iff.1 h
    have hfield := ((normalizeFields_eq_ok_iff hardware_isProper.1).1 hout).1
    have hobj : normalizeHardware (.obj out) = .ok (.obj out) ↔
        hardware.normalizeFields checkEntries out = .ok out := by
      simp [normalizeHardware, Record.normalize, Checked.map_eq_ok_iff]
    have hhidden : ∀ f ∈ hardware.fields, ¬f.IsHidden given :=
      fun f hf hhidden => hhidden.1 (hardware_isPlain.1 f hf)
    rw [hobj, normalizeFields_self_iff hardware_isSound hout, and_iff_left hhidden]
    push Not
    exact forall₂_congr fun f hf => forall_checkEntries_self_iff hf (hfield f hf)
  | _ => cases h

/-- No settings are hidden in a normalized description. -/
lemma not_hidesSettings {v d : Value} (h : normalizeHardware v = .ok d) : ¬HidesSettings d := by
  rw [← exists_hides_iff]
  rintro ⟨f, hf, e, he, hhides⟩
  cases v with
  | obj given =>
    obtain ⟨out, hout, rfl⟩ := Checked.map_eq_ok_iff.1 h
    obtain ⟨items, hitems, hmem⟩ := mem_listed.1 he
    have hfield := ((normalizeFields_eq_ok_iff hardware_isProper.1).1 hout).1 f hf
    obtain ⟨w, -, -, hw⟩ :=
      (eq_some_iff_of_plain (hardware_isPlain.1 f hf) hfield).1 hitems
    have hfits : ListFits (fun e => ¬f.type.Hides e) (.arr items) :=
      checkList_fits (fun v w => not_hides_of_normalize (isSound_of_mem_hardware hf)) hw
    obtain ⟨_, heq, hforall⟩ := hfits
    obtain rfl := Value.arr.inj heq
    exact hforall e hmem hhides
  | _ => cases h

/-- A description that has been normalized stays as it is if it is normalized again, unless settings
of a display were hidden in what was given. Even then, the outcome of the second time stays. -/
theorem normalizeHardware_idempotent_iff {v d : Value} (h : normalizeHardware v = .ok d) :
    (normalizeHardware d = .ok d ↔ ¬HidesSettings v) ∧
      ∀ d', normalizeHardware d = .ok d' → normalizeHardware d' = .ok d' :=
  ⟨normalizeHardware_self_iff h,
    fun _ h' => (normalizeHardware_self_iff h').2 (not_hidesSettings h)⟩

/-- The settings of a serial transport under some keys of a display, and null under others. -/
def settingsUnder (nulls keys : List String) : Value :=
  .obj [("oled_displays", .arr [.obj ((nulls.map fun key => (key, .null)) ++
    keys.map fun key => (key, .obj [("pin_dc", .int 9)]))])]

/-- Hidden settings come out under the name of the field, then under its proper spelling. -/
theorem normalizeHardware_idempotent_iff_hidden :
    normalizeHardware (settingsUnder ["4_wire_spi_config"] ["spi_config"]) =
        .ok (settingsUnder [] ["spi_config"]) ∧
      normalizeHardware (settingsUnder [] ["spi_config"]) ≠
        .ok (settingsUnder [] ["spi_config"]) ∧
      normalizeHardware (settingsUnder [] ["4_wire_spi_config"]) =
        .ok (settingsUnder [] ["4_wire_spi_config"]) := by
  have hfirst : normalizeHardware (settingsUnder ["4_wire_spi_config"] ["spi_config"]) =
      .ok (settingsUnder [] ["spi_config"]) := rfl
  have hsecond : normalizeHardware (settingsUnder [] ["spi_config"]) =
      .ok (settingsUnder [] ["4_wire_spi_config"]) := rfl
  obtain ⟨hiff, hstays⟩ := normalizeHardware_idempotent_iff hfirst
  refine ⟨hfirst, fun hself => hiff.1 hself ?_, hstays _ hsecond⟩
  exact ⟨_, List.mem_singleton_self _, rfl, .obj [("pin_dc", .int 9)], by simp, rfl⟩

end ControlSurface.Schema
