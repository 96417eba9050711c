import ControlSurface.Proofs.Header.Slots
import ControlSurface.Proofs.Json.Size
import ControlSurface.Proofs.Notes
import ControlSurface.Proofs.Schema.Kept
import ControlSurface.Service.Generation
import Mathlib.Algebra.Order.BigOperators.Group.List

/-!
# Answers to checked descriptions

Once a description has been checked, its header comes out, and so does everything that is told
about it. The one thing that could be in the way is a label that is bound so often that its count
has too many digits; but a description binds no more labels than it is made of values.
-/

namespace ControlSurface

open Schema

/-! ### How many labels there are -/

namespace Value

lemma size_pos (v : Value) : 0 < v.size := by
  cases v <;> simp [size]

lemma length_le_sizes (l : List Value) : l.length ≤ sizes l := by
  induction l with
  | nil => rfl
  | cons v rest ih =>
    have hpos := size_pos v
    rw [List.length_cons, sizes]
    omega

lemma size_le_of_lookup {fields : List (String × Value)} {key : String} {w : Value}
    (h : fields.lookup key = some w) : w.size ≤ fieldSizes fields := by
  obtain ⟨front, back, rfl, -⟩ := List.lookup_eq_some_iff.1 h
  rw [fieldSizes_append, fieldSizes]
  omega

lemma sizes_listed_le {fields : List (String × Value)} {key : String} {w : Value}
    (h : fields.lookup key = some w) : sizes (Description.listed (.obj fields) key) ≤ w.size := by
  rw [Description.listed, h]
  cases w with
  | arr items => exact Nat.le_succ _
  | _ => exact Nat.zero_le _

/-- The lists under different keys of an object are parts of it that do not overlap. -/
lemma sum_sizes_listed_le {keys : List String} (hkeys : keys.Nodup)
    (fields : List (String × Value)) :
    (keys.map fun key => sizes (Description.listed (.obj fields) key)).sum ≤
      fieldSizes fields := by
  induction keys generalizing fields with
  | nil => exact Nat.zero_le _
  | cons k keys ih =>
    obtain ⟨hk, hkeys⟩ := List.nodup_cons.1 hkeys
    rw [List.map_cons, List.sum_cons]
    cases hlookup : fields.lookup k with
    | none =>
      have hnil : Description.listed (.obj fields) k = [] := by rw [Description.listed, hlookup]
      rw [hnil, sizes, Nat.zero_add]
      exact ih hkeys fields
    | some w =>
      have hown := sizes_listed_le hlookup
      obtain ⟨front, back, rfl, -⟩ := List.lookup_eq_some_iff.1 hlookup
      -- The other keys are looked up as if the field were not there.
      have hother : keys.map (fun key =>
          sizes (Description.listed (.obj (front ++ (k, w) :: back)) key)) =
          keys.map fun key => sizes (Description.listed (.obj (front ++ back)) key) := by
        refine List.map_congr_left fun key hkey => ?_
        have hne : key ≠ k := fun heq => hk (heq ▸ hkey)
        simp only [Description.listed, List.lookup_append, List.lookup_cons, beq_false_of_ne hne]
      have hrest := ih hkeys (front ++ back)
      rw [hother]
      rw [fieldSizes_append] at hrest
      rw [fieldSizes_append, fieldSizes]
      omega

end Value

namespace Label

lemma length_namesOf_le (e : Value) : (namesOf e).length ≤ e.size := by
  unfold namesOf
  split
  · split
    · next labels hlookup =>
      have hlabels := Value.length_le_sizes labels
      have hfield := Value.size_le_of_lookup hlookup
      rw [Value.size] at hfield
      rw [List.length_map, Value.size]
      omega
    · exact Nat.zero_le _
  · exact Nat.zero_le _

lemma length_flatMap_namesOf_le (entries : List Value) :
    (entries.flatMap namesOf).length ≤ Value.sizes entries := by
  induction entries with
  | nil => rfl
  | cons e rest ih =>
    have he := length_namesOf_le e
    rw [List.flatMap_cons, List.length_append, Value.sizes]
    omega

end Label

namespace Notes

variable {v d : Value}

/-- A description binds no more labels than it is made of values. -/
lemma length_boundLabels_le (v : Value) : (boundLabels v).length ≤ v.size := by
  rw [boundLabels_eq]
  cases v with
  | obj fields =>
    have hkeys : labelKeys.Nodup := by decide
    rw [List.length_flatMap, Value.size]
    refine le_trans ?_ (Nat.le_succ_of_le (Value.sum_sizes_listed_le hkeys fields))
    exact List.sum_le_sum fun key _ => Label.length_flatMap_namesOf_le _
  | _ => simp [Description.listed]

/-- Checking a description leaves the labels that it binds as they are. -/
lemma boundLabels_of_normalize (h : normalizeHardware v = .ok d) :
    boundLabels d = boundLabels v := by
  rw [boundLabels_eq, boundLabels_eq]
  refine List.flatMap_congr fun key hkey => ?_
  obtain ⟨record, hrecord⟩ := exists_isListedAs_of_mem_labelKeys hkey
  exact (flatMap_congr ((listed_of_normalize h hrecord).2.imp fun _ _ hentry =>
    namesOf_of_normalize hrecord hentry)).symm

lemma count_lt_countBound (h : normalizeHardware v = .ok d) (hsize : v.size < countBound)
    (label : String) : (boundLabels d).count label < countBound := by
  rw [boundLabels_of_normalize h]
  exact (List.count_le_length.trans (length_boundLabels_le v)).trans_lt hsize

end Notes

/-! ### Answers -/

namespace Service

variable {v d : Value}

lemma generate_eq_ok {structName source : String} {counts : List (String × ℕ)}
    {notes : List String} (hsource : Header.source d structName = .ok source)
    (hcounts : Description.counts d = .ok counts) (hnotes : Notes.ofDescription d = .ok notes) :
    generate ⟨d, structName⟩ = .ok ⟨source, counts, notes⟩ := by
  rw [generate, sourceOf, hsource, hcounts, hnotes]
  rfl

/-- A description that has been checked always finds an answer: its header, its members and the
counts of its entries come out, and so do the notes about it, unless it is made of more values than
there can be. -/
theorem generate_of_normalize (h : normalizeHardware v = .ok d) (structName : String) :
    ∃ source counts members, Header.source d structName = .ok source ∧
      Description.counts d = .ok counts ∧ Header.members d = .ok members ∧
      (∀ fileName, generateFile ⟨⟨d, structName⟩, fileName⟩ = .ok ⟨source, fileName⟩) ∧
      ((∃ notes, Notes.ofDescription d = .ok notes ∧
        generate ⟨d, structName⟩ = .ok ⟨source, counts, notes⟩) ∨ Notes.countBound ≤ v.size) := by
  have hd := isDescription_of_normalize h
  have hsource := Header.source_eq hd structName
  refine ⟨_, _, _, hsource, Description.counts_eq hd, Header.members_eq hd, fun fileName => ?_, ?_⟩
  · rw [generateFile, sourceOf, hsource]
    rfl
  · rw [or_iff_not_imp_right, not_le]
    intro hsize
    have hnotes := Notes.ofDescription_eq_ok hd (Notes.count_lt_countBound h hsize)
    exact ⟨_, hnotes, generate_eq_ok hsource (Description.counts_eq hd) hnotes⟩

/-- A description with nulls, fields that are not declared, and a pin that is given as true. -/
theorem generate_of_normalize_coerced :
    let v : Value := .obj [("title", .arr [.null]), ("switches", .null), ("leds", .arr [.obj
      [("size", .int 3), ("pin", .bool true), ("labels", .null)]])]
    let d : Value := .obj [("leds", .arr [.obj [("pin", .int 1), ("size", .int 3)]]),
      ("title", .arr [.null])]
    let counts : List (String × ℕ) := [("analog_controls", 0), ("cv_inputs", 0), ("cv_outputs", 0),
      ("encoders", 0), ("gate_inputs", 0), ("gate_outputs", 0), ("leds", 1), ("midi_handlers", 0),
      ("oled_displays", 0), ("rgb_leds", 0), ("switches", 0)]
    normalizeHardware v = .ok d ∧
    ∃ source, Header.source d "Panel" = .ok source ∧ Description.counts d = .ok counts ∧
      Header.members d = .ok ["seed", "leds", "Init", "ProcessAnalogControls",
        "ProcessDigitalControls", "ProcessAllControls", "UpdateLeds"] ∧
      (∀ fileName, generateFile ⟨⟨d, "Panel"⟩, fileName⟩ = .ok ⟨source, fileName⟩) ∧
      Notes.ofDescription d = .ok [] ∧ generate ⟨d, "Panel"⟩ = .ok ⟨source, counts, []⟩ := by
  intro v d counts
  have h : normalizeHardware v = .ok d := rfl
  have hsize : v.size < Notes.countBound := Notes.lt_countBound (by decide : 7 ≤ 4300) (by decide)
  obtain ⟨source, counted, members, hsource, hcounted, -, hfile, htold⟩ :=
    generate_of_normalize h "Panel"
  obtain ⟨notes, hnotes, hgenerate⟩ := htold.resolve_right hsize.not_ge
  obtain rfl : counted = counts := Except.ok.inj (hcounted.symm.trans rfl)
  obtain rfl : notes = [] := Except.ok.inj (hnotes.symm.trans rfl)
  exact ⟨h, source, hsource, hcounted, rfl, hfile, hnotes,
    hgenerate⟩

end Service

end ControlSurface
