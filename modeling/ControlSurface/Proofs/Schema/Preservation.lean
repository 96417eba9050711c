import ControlSurface.Keyed
import ControlSurface.Proofs.Schema.Kept

/-!
# What normalizing preserves

Normalizing loses nothing but nulls. A record comes out with the keys that it was given: first those
that it declares, in the order of their declaration, then the others in the order in which they
came, with whatever they hold. A declared field stays as it is if it is of its type already.
-/

namespace ControlSurface.Schema

variable {τ : Type} {check : τ → Value → Checked Value} {keeps : τ → Value → Value → Prop}
  {r : Record τ} {f : Field τ} {given out : List (String × Value)}

/-! ### What is kept -/

/-- The keys that a record declares, in the order of their declaration. -/
def Record.keys (r : Record τ) : List String := r.fields.map Field.spelling

/-- Whether an object holds something other than null under a key. -/
def isGiven (given : List (String × Value)) (key : String) : Bool :=
  !((given.lookup key).getD .null).isNull

/-- The fields of an object that a record does not declare, nulls left out. -/
def Record.undeclared (r : Record τ) (given : List (String × Value)) : List (String × Value) :=
  given.filter fun p => !r.keys.contains p.1 && !p.2.isNull

/-- Whether the fields of one object come out as those of another one. What becomes of the declared
fields depends on their types. -/
structure Record.KeepsFields (keeps : τ → Value → Value → Prop) (r : Record τ)
    (given out : List (String × Value)) : Prop where
  keys : Keyed.keys out = r.keys.filter (isGiven given) ++ Keyed.keys (r.undeclared given)
  declared : ∀ f ∈ r.fields, ∀ w, given.lookup f.spelling = some w → w ≠ .null →
    ∃ w', out.lookup f.spelling = some w' ∧ keeps f.type w w'
  undeclared : (out.filter fun p => !r.keys.contains p.1) = r.undeclared given

/-- Whether an object comes out as another one. -/
def Record.Keeps (keeps : τ → Value → Value → Prop) (r : Record τ) (v d : Value) : Prop :=
  ∃ given out, v = .obj given ∧ d = .obj out ∧ r.KeepsFields keeps given out

/-- Whether a simple field comes out as a value of its type, unchanged if it was one already. -/
def Scalar.Keeps (t : Scalar) (v w : Value) : Prop := t.Fits w ∧ (t.Fits v → w = v)

/-- Whether a field of an entry comes out as another value. Labels always stay as they are. -/
def EntryType.Keeps : EntryType → Value → Value → Prop
  | .scalar type, v, w => type.Keeps v w
  | .labels, v, w => ListFits (Scalar.Fits .text) v ∧ w = v
  | .settings record, v, w => record.Keeps Scalar.Keeps v w

/-! ### Records -/

/-- The extras of an object are the fields that are not declared, if nothing is found under the
second name of a field. -/
lemma extras_eq_undeclared
    (hname : ∀ f ∈ r.fields, f.name = f.spelling ∨ given.lookup f.name = none) :
    r.extras given = r.undeclared given := by
  have hused : ∀ p ∈ given,
      p.1 ∈ (r.fields.filterMap fun f => f.keyIn? given) ↔ p.1 ∈ r.keys := by
    intro p hp
    rw [Record.keys, List.mem_filterMap, List.mem_map]
    refine exists_congr fun f => and_congr_right fun hf => ?_
    constructor
    · intro hkey
      rcases lookup_of_keyIn? hkey with ⟨heq, -⟩ | ⟨heq, -, hsome⟩
      · exact heq.symm
      · rcases hname f hf with hplain | hnone
        · exact hplain.symm.trans heq.symm
        · rw [heq, hnone] at hsome
          cases hsome
    · rintro heq
      obtain ⟨w, hw⟩ := Option.isSome_iff_exists.1
        (List.lookup_isSome_iff.2 ⟨p, hp, beq_self_eq_true p.1⟩)
      rw [← heq] at hw ⊢
      exact keyIn?_of_lookup hw
  refine List.filter_congr fun p hp => ?_
  have hcontains : (r.fields.filterMap fun f => f.keyIn? given).contains p.1 =
      r.keys.contains p.1 := by
    rw [Bool.eq_iff_iff, List.contains_iff_mem, List.contains_iff_mem]
    exact hused p hp
  rw [hcontains]

lemma isGiven_iff {key : String} :
    isGiven given key = true ↔ ∃ w, given.lookup key = some w ∧ w.isNull = false := by
  rw [isGiven]
  cases given.lookup key <;> simp [Value.isNull]

/-- The keys of the declared fields that are there. -/
lemma keys_declaredIn (h : ∀ f ∈ r.fields,
    (out.lookup f.spelling).isSome = isGiven given f.spelling) :
    Keyed.keys (r.declaredIn out) = r.keys.filter (isGiven given) := by
  have hfield : ∀ f ∈ r.fields,
      ((out.lookup f.spelling).map (f.spelling, ·)).map Prod.fst =
        Option.guard (isGiven given) f.spelling := by
    intro f hf
    rw [Option.guard, ← h f hf]
    cases out.lookup f.spelling <;> rfl
  rw [Keyed.keys, Record.declaredIn, List.map_filterMap, List.filterMap_congr hfield,
    Record.keys, ← List.filterMap_eq_filter, List.filterMap_map]
  rfl

/-- A record that has been normalized keeps what it was given, if its fields do. -/
theorem normalizeFields_keeps (hr : r.IsProper)
    (hcheck : ∀ f ∈ r.fields, ∀ v w, given.lookup f.spelling = some v →
      check f.type v = .ok w → keeps f.type v w)
    (hname : ∀ f ∈ r.fields, f.name = f.spelling ∨ given.lookup f.name = none)
    (h : r.normalizeFields check given = .ok out) : r.KeepsFields keeps given out := by
  obtain ⟨hfield, hout⟩ := (normalizeFields_eq_ok_iff hr).1 h
  rw [extras_eq_undeclared hname] at hout
  have hsome : ∀ f ∈ r.fields, ∀ w, out.lookup f.spelling = some w ↔
      ∃ v, given.lookup f.spelling = some v ∧ v.isNull = false ∧ check f.type v = .ok w := by
    refine fun f hf w => eq_some_iff_of_normalizeField (fun hnone => ?_) (hfield f hf)
    exact (hname f hf).elim (fun hplain => hplain ▸ hnone) id
  have hdeclared : ∀ f ∈ r.fields, ∀ v, given.lookup f.spelling = some v → v.isNull = false →
      ∃ w, out.lookup f.spelling = some w := by
    intro f hf v hv hnull
    refine Option.ne_none_iff_exists'.1 fun hnone => ?_
    have hmissing := hfield f hf
    rw [hnone] at hmissing
    exact normalizeField_ne_none (keyIn?_of_lookup hv) hv hnull hmissing
  refine ⟨?_, fun f hf v hv hnull => ?_, ?_⟩
  · have hthere : ∀ f ∈ r.fields,
        (out.lookup f.spelling).isSome = isGiven given f.spelling := by
      intro f hf
      rw [Bool.eq_iff_iff, Option.isSome_iff_exists, isGiven_iff]
      constructor
      · rintro ⟨w, hw⟩
        obtain ⟨v, hv, hnull, -⟩ := (hsome f hf w).1 hw
        exact ⟨v, hv, hnull⟩
      · rintro ⟨v, hv, hnull⟩
        exact hdeclared f hf v hv hnull
    rw [← keys_declaredIn hthere, Keyed.keys, Keyed.keys, Keyed.keys, ← List.map_append, ← hout]
  · obtain ⟨w, hw⟩ := hdeclared f hf v hv (isNull_eq_false_iff.2 hnull)
    obtain ⟨v', hv', -, hchecked⟩ := (hsome f hf w).1 hw
    obtain rfl : v = v' := Option.some_inj.1 (hv.symm.trans hv')
    exact ⟨w, hw, hcheck f hf v w hv hchecked⟩
  · have hfront : ∀ p ∈ r.declaredIn out, r.keys.contains p.1 = true := by
      intro p hp
      obtain ⟨f, hf, heq, -⟩ := lookup_of_mem_declaredIn hp
      rw [heq, List.contains_iff_mem]
      exact List.mem_map_of_mem hf
    have hback : ∀ p ∈ r.undeclared given, r.keys.contains p.1 = false := by
      intro p hp
      have hp := (List.mem_filter.1 hp).2
      rw [Bool.and_eq_true, Bool.not_eq_true'] at hp
      exact hp.1
    rw [hout, List.filter_append, List.filter_eq_nil_iff.2, List.filter_eq_self.2, List.nil_append]
    · exact fun p hp => by rw [hback p hp]; rfl
    · exact fun p hp => by rw [hfront p hp]; exact Bool.false_ne_true

theorem normalize_keeps {v d : Value} (hr : r.IsProper)
    (hcheck : ∀ given, v = .obj given → ∀ f ∈ r.fields, ∀ w w', given.lookup f.spelling = some w →
      check f.type w = .ok w' → keeps f.type w w')
    (hname : ∀ given, v = .obj given → ∀ f ∈ r.fields,
      f.name = f.spelling ∨ given.lookup f.name = none)
    (h : r.normalize check v = .ok d) : r.Keeps keeps v d := by
  cases v with
  | obj given =>
    obtain ⟨out, hout, rfl⟩ := Checked.map_eq_ok_iff.1 h
    exact ⟨given, out, rfl, rfl, normalizeFields_keeps hr (hcheck given rfl) (hname given rfl) hout⟩
  | _ => cases h

/-! ### Entries -/

lemma Scalar.check_keeps {t : Scalar} {v w : Value} (h : t.check v = .ok w) : t.Keeps v w :=
  ⟨t.check_fits h, fun hv => Except.ok.inj (h.symm.trans (Scalar.check_self hv))⟩

lemma EntryType.check_keeps {t : EntryType} (hproper : t.IsProper) (hplain : t.IsPlain)
    {v w : Value} (h : t.check v = .ok w) : t.Keeps v w := by
  cases t with
  | scalar type => exact type.check_keeps h
  | labels =>
    have hsame : w = v := by
      refine eq_of_checkList (fun v w hw => ?_) h
      cases v <;> cases hw
      rfl
    have hfits : EntryType.labels.Fits w := EntryType.check_fits hproper h
    exact ⟨hsame ▸ hfits, hsame⟩
  | settings record =>
    exact normalize_keeps hproper (fun _ _ _ _ _ _ _ hw => Scalar.check_keeps hw)
      (fun _ _ f hf => .inl (hplain f hf)) h

/-! ### Descriptions -/

/-- A description that has been checked keeps everything but nulls, and so do its entries and the
settings in them. -/
theorem normalizeHardware_keeps {v d : Value} (h : normalizeHardware v = .ok d)
    (hspi : SpellsSettings v) :
    hardware.Keeps (fun record => ItemByItem (record.Keeps EntryType.Keeps)) v d := by
  refine normalize_keeps hardware_isProper.1 ?_ (fun _ _ f hf => .inl (hardware_isPlain.1 f hf)) h
  rintro given rfl f hf w w' hw hchecked
  obtain ⟨items, items', rfl, rfl, hitems⟩ := forall₂_of_checkList hchecked
  have hspelled : ∀ e ∈ items, ∀ fields, e = .obj fields → ∀ g ∈ f.type.fields,
      g.name = g.spelling ∨ fields.lookup g.name = none := by
    rintro _ he fields rfl g hg
    rw [or_iff_not_imp_left]
    intro hne
    rcases isPlain_or_display f hf with hplain | rfl
    · exact absurd (hplain g hg) hne
    · rw [(eq_of_mem_display hg hne).1]
      exact hspi fields (mem_listed.2 ⟨items, hw, he⟩)
  refine ⟨items, items', rfl, rfl, ?_⟩
  refine ((List.forall₂_and_left _ _).2 ⟨hspelled, hitems⟩).imp fun e e' ⟨hname, he⟩ => ?_
  refine normalize_keeps (hardware_isProper.2 f hf).1 (fun _ _ g hg _ _ _ => ?_) hname he
  exact EntryType.check_keeps ((hardware_isProper.2 f hf).2 g hg) ((hardware_isPlain.2 f hf).1 g hg)

/-- The fields of a display move to the places in which they are declared, and a null inside an
undeclared field stays. -/
theorem normalizeHardware_keeps_display :
    let v : Value := .obj [("revision", .obj [("of", .null)]), ("switches", .null),
      ("oled_displays", .arr [.obj [("4_wire_spi_config", .obj [("mode", .arr [.null]),
        ("pin_reset", .str "D30"), ("pin_dc", .null)]), ("i2c_config", .null),
        ("labels", .arr [.str "main"])]]), ("leds", .arr [.obj [("pin", .int 3)]])]
    let d : Value := .obj [("leds", .arr [.obj [("pin", .int 3)]]),
      ("oled_displays", .arr [.obj [("labels", .arr [.str "main"]),
        ("4_wire_spi_config", .obj [("pin_reset", .str "D30"), ("mode", .arr [.null])])]]),
      ("revision", .obj [("of", .null)])]
    (normalizeHardware v = .ok d ∧ SpellsSettings v) ∧
      hardware.Keeps (fun record => ItemByItem (record.Keeps EntryType.Keeps)) v d := by
  intro v d
  have h : normalizeHardware v = .ok d := rfl
  have hspi : SpellsSettings v := by
    intro fields hmem
    have hlisted : Description.listed v "oled_displays" = [.obj [
        ("4_wire_spi_config", .obj [("mode", .arr [.null]), ("pin_reset", .str "D30"),
          ("pin_dc", .null)]), ("i2c_config", .null), ("labels", .arr [.str "main"])]] := rfl
    rw [hlisted, List.mem_singleton, Value.obj.injEq] at hmem
    rw [hmem]
    rfl
  exact ⟨⟨h, hspi⟩, normalizeHardware_keeps h hspi⟩

end ControlSurface.Schema
