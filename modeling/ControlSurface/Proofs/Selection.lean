import ControlSurface.Proofs.Generator.Agreement
import ControlSurface.Proofs.Generator.Failure

/-!
# Fragments of a choice of kinds

The fragments of a phase may be asked for only some of the kinds. What comes out depends on nothing
but which kinds are chosen and on what is listed under their keys. If the fragments of all kinds
come out, those of the chosen kinds are picked out of them, in the same order.
-/

namespace ControlSurface

/-! ### Fragments that are not empty -/

/-- Whether lines, if there are any, begin with one that is not empty. -/
def IsHeaded (lines : List String) : Prop := ∀ line ∈ lines.head?, line ≠ ""

lemma isHeaded_nil : IsHeaded [] := fun _ h => nomatch h

lemma isHeaded_cons {line : String} {lines : List String} (h : line ≠ "") :
    IsHeaded (line :: lines) := fun _ hline => Option.some_inj.1 hline ▸ h

/-- A text is empty only if there are no lines. -/
lemma fragmentText_eq_empty_iff {lines : List String} (h : IsHeaded lines) :
    fragmentText lines = "" ↔ lines = [] := by
  constructor
  · intro hempty
    cases lines with
    | nil => rfl
    | cons line rest =>
      have hline : line.toList ≠ [] := by
        rw [ne_eq, String.toList_eq_nil_iff]
        exact h line rfl
      have htext := congrArg String.toList hempty
      rw [fragmentText, String.toList_intercalate] at htext
      cases rest <;> simp_all [List.intercalate_cons_cons]
  · rintro rfl
    rfl

lemma isHeaded_bracketed (arrayName : String) (lines : List String) :
    IsHeaded (bracketed arrayName lines) := by
  apply isHeaded_cons
  intro hempty
  simp [toString] at hempty

namespace Bank

lemma declare_isHeaded (b : Bank) (entries : Value) : Yields IsHeaded (b.declare entries) := by
  apply Yields.bind
  intro count _
  apply Yields.map
  intro references
  apply isHeaded_cons
  cases b <;> decide

lemma serviceAll_isHeaded (b : Bank) (method : String) (entries : Value) :
    Yields IsHeaded (b.serviceAll method entries) := by
  apply Yields.map
  intro count
  apply isHeaded_cons
  cases b <;> decide

lemma bringUp_isHeaded (b : Bank) (entries : Value) : Yields IsHeaded (b.bringUp entries) :=
  Yields.map fun lines => isHeaded_bracketed b.arrayName lines

end Bank

namespace Display

lemma inclusions_isHeaded (displays : Value) : Yields IsHeaded (inclusions displays) := by
  apply Yields.bind
  intro items _
  apply Yields.map
  intro needs
  cases needs
  · exact isHeaded_nil
  · exact isHeaded_cons (by decide)

lemma declare_isHeaded (displays : Value) : Yields IsHeaded (declare displays) := by
  apply Yields.bind
  intro names _
  apply Yields.map
  intro drivers
  exact isHeaded_cons (by decide)

lemma bringUp_isHeaded (displays : Value) : Yields IsHeaded (bringUp displays) := by
  apply Yields.bind
  intro count _
  apply Yields.bind
  intro drivers _
  apply Yields.bind
  intro items _
  apply Yields.map
  intro lines
  exact isHeaded_bracketed _ _

end Display

namespace Kind

lemma generator?_isHeaded {k : Kind} {p : Phase} {generate : Generator}
    (h : k.generator? p = some generate) (entries : Value) :
    Yields IsHeaded (generate entries) := by
  cases p with
  | inclusion =>
    rw [generator?] at h
    split_ifs at h
    cases h
    exact Display.inclusions_isHeaded entries
  | declaration =>
    rw [generator?] at h
    split_ifs at h
    · cases h
      exact whenPresent_yields isHeaded_nil (Display.declare_isHeaded entries)
    · obtain ⟨b, -, rfl⟩ := Option.map_eq_some_iff.1 h
      exact whenPresent_yields isHeaded_nil (b.declare_isHeaded entries)
  | initialization =>
    rw [generator?] at h
    split_ifs at h
    · cases h
      exact whenPresent_yields isHeaded_nil (Display.bringUp_isHeaded entries)
    · cases h
      exact whenPresent_yields isHeaded_nil (Yields.ok (isHeaded_bracketed _ _))
    · obtain ⟨b, -, rfl⟩ := Option.map_eq_some_iff.1 h
      exact whenPresent_yields isHeaded_nil (b.bringUp_isHeaded entries)
  | processing =>
    obtain ⟨b, -, hservice⟩ := Option.bind_eq_some_iff.1 h
    obtain ⟨method, -, rfl⟩ := Option.map_eq_some_iff.1 hservice
    exact whenPresent_yields isHeaded_nil (b.serviceAll_isHeaded method entries)

/-- Whatever a kind contributes begins with a line that is not empty. -/
theorem fragmentLines_isHeaded (k : Kind) (p : Phase) (entries : Value) :
    Yields IsHeaded (k.fragmentLines p entries) := by
  unfold fragmentLines
  cases hgenerate : k.generator? p with
  | none => exact Yields.ok isHeaded_nil
  | some generate => exact generator?_isHeaded hgenerate entries

end Kind

/-! ### Choices -/

namespace Description

/-- The choice of the kinds of some names. -/
def choiceOf (names : List String) : Value := .arr (names.map .str)

/-- A choice selects the kinds that it names, however often and in whatever order it does, and names
that no kind has select nothing. -/
lemma selects_choiceOf (names : List String) (k : Kind) :
    selects (choiceOf names) k = .ok (decide (k.name ∈ names)) := by
  rw [choiceOf, selects, Value.holds, Except.ok.injEq, List.any_map, Bool.eq_iff_iff,
    List.any_eq_true, decide_eq_true_eq]
  · simp
  · exact Value.noConfusion

/-- The fragment of a kind for the entries of a description. -/
def ownFragment (d phase : Value) (k : Kind) : Except Fault String := do
  fragment (.str k.name) (.arr (← collect d (.str k.name))) phase

/-- The lines of the fragment of a kind. -/
def ownLines (d phase : Value) (k : Kind) : Except Fault (List String) := do
  let entries ← entriesOf d k
  k.fragmentLines (← Phase.ofValue phase) (.arr entries)

variable {d d' phase choice : Value} {k : Kind} {names : List String}

lemma ownFragment_eq (d phase : Value) (k : Kind) :
    ownFragment d phase k = (do return fragmentText (← ownLines d phase k)) := by
  have hcollect : collect d (.str k.name) = entriesOf d k := by
    rw [collect, Kind.ofValue_name]
    rfl
  unfold ownFragment ownLines fragment
  simp only [hcollect, Kind.ofValue_name, Value.itemsOrNone_arr]
  cases entriesOf d k with
  | error fault => rfl
  | ok entries => cases Phase.ofValue phase <;> rfl

lemma ownLines_isHeaded (d phase : Value) (k : Kind) : Yields IsHeaded (ownLines d phase k) := by
  apply Yields.bind
  intro entries _
  apply Yields.bind
  intro p _
  exact k.fragmentLines_isHeaded p _

/-- Nothing is made for a kind that is not selected. -/
lemma selectedLines_eq {selected : Kind → Bool} (h : selects choice k = .ok (selected k)) :
    selectedLines d (Phase.ofValue phase) (selects choice) k =
      if selected k then ownLines d phase k else .ok [] := by
  unfold selectedLines ownLines
  rw [h]
  rfl

lemma ownLines_congr (h : d.AgreeOn k.keys d') : ownLines d phase k = ownLines d' phase k := by
  have hentries : entriesOf d k = entriesOf d' k := by
    have hlisted : k.keys.mapM (entriesUnder d) = k.keys.mapM (entriesUnder d') := by
      apply mapM_congr
      rw [List.forall₂_same]
      intro key hkey
      rw [entriesUnder, entriesUnder, h key hkey]
    rw [entriesOf, entriesOf, hlisted]
  rw [ownLines, ownLines, hentries]

/-- The fragments depend on which kinds are selected, and on what is listed under their keys. -/
lemma phaseFragments_congr {choice' : Value} {selected : Kind → Bool}
    (h : ∀ k, selects choice k = .ok (selected k)) (h' : ∀ k, selects choice' k = .ok (selected k))
    (hd : ∀ k, selected k = true → d.AgreeOn k.keys d') :
    phaseFragments d phase choice = phaseFragments d' phase choice' := by
  have hlines : Kind.all.mapM (selectedLines d (Phase.ofValue phase) (selects choice)) =
      Kind.all.mapM (selectedLines d' (Phase.ofValue phase) (selects choice')) := by
    apply mapM_congr
    rw [List.forall₂_same]
    intro k _
    rw [selectedLines_eq (h k), selectedLines_eq (h' k)]
    split_ifs with hselected
    · exact ownLines_congr (hd k hselected)
    · rfl
  unfold phaseFragments fragments fragmentLines
  rw [hlines]

/-! ### Passes that come to something -/

/-- The fragment of a kind, empty if it does not come out. -/
def fragmentOf (d phase : Value) (k : Kind) : String := (ownFragment d phase k).toOption.getD ""

/-- All fragments that are not empty, each with its kind, in the order of the kinds. -/
def taggedFragments (d phase : Value) : List (Kind × String) :=
  (Kind.all.map fun k => (k, fragmentOf d phase k)).filter fun p => p.2 ≠ ""

/-- Whether the fragment of a kind comes out. -/
def ComesOut (d phase : Value) (k : Kind) : Prop :=
  ownFragment d phase k = .ok (fragmentOf d phase k)

/-- The lines of a fragment that comes out. -/
lemma comesOut_iff : ComesOut d phase k ↔ ∃ lines, ownLines d phase k = .ok lines ∧
    fragmentOf d phase k = fragmentText lines := by
  unfold ComesOut fragmentOf
  rw [ownFragment_eq]
  cases ownLines d phase k with
  | error fault => exact ⟨(nomatch ·), fun ⟨_, h, _⟩ => nomatch h⟩
  | ok lines => exact ⟨fun _ => ⟨lines, rfl, rfl⟩, fun _ => rfl⟩

/-- If a pass comes to something, so does the fragment of every selected kind. -/
lemma comesOut_of_ok {selected : Kind → Bool} {made : List String}
    (hselected : ∀ k, selects choice k = .ok (selected k))
    (h : phaseFragments d phase choice = .ok made) (hk : selected k = true) :
    ComesOut d phase k := by
  have hlines : Yields (fun _ => ∀ k ∈ Kind.all, ∃ lines,
      selectedLines d (Phase.ofValue phase) (selects choice) k = .ok lines)
      (phaseFragments d phase choice) := by
    apply Yields.bind
    intro lines hlines
    apply Yields.ok
    revert lines
    apply Yields.bind
    intro made hmade
    exact Yields.ok (Yields.mapM made hmade)
  obtain ⟨lines, hmade⟩ := hlines made h k k.mem_all
  rw [selectedLines_eq (hselected k), if_pos hk] at hmade
  rw [comesOut_iff]
  refine ⟨lines, hmade, ?_⟩
  rw [fragmentOf, ownFragment_eq, hmade]
  rfl

/-- Dropping what has no lines and what has no text comes to the same. -/
lemma map_filter_tagged (selected : Kind → Bool) (lines : Kind → List String) (text : Kind → String)
    (l : List Kind) (h : ∀ k, selected k = true → text k = fragmentText (lines k) ∧
      IsHeaded (lines k)) :
    ((l.map fun k => if selected k then lines k else []).filter fun ls => !ls.isEmpty).map
        fragmentText =
      (((l.map fun k => (k, text k)).filter fun p => p.2 ≠ "").filter fun p => selected p.1).map
        Prod.snd := by
  induction l with
  | nil => rfl
  | cons k l ih =>
    by_cases hk : selected k = true
    · obtain ⟨htext, hheaded⟩ := h k hk
      have hempty : text k = "" ↔ lines k = [] := htext ▸ fragmentText_eq_empty_iff hheaded
      by_cases hnil : lines k = []
      · simpa [hk, hnil, hempty.2 hnil] using ih
      · have hne : ¬fragmentText (lines k) = "" := fun heq => hnil (hempty.1 (htext.trans heq))
        simpa [hk, hnil, hne, htext] using ih
    · by_cases hnil : text k = "" <;> simpa [hk, hnil] using ih

/-- If the fragments of all selected kinds come out, they are those of the pass. -/
lemma phaseFragments_eq {selected : Kind → Bool}
    (hselected : ∀ k, selects choice k = .ok (selected k))
    (h : ∀ k, selected k = true → ComesOut d phase k) :
    phaseFragments d phase choice =
      .ok (((taggedFragments d phase).filter fun p => selected p.1).map Prod.snd) := by
  let lines (k : Kind) : List String := (ownLines d phase k).toOption.getD []
  have hlines : ∀ k, selected k = true → ownLines d phase k = .ok (lines k) ∧
      fragmentOf d phase k = fragmentText (lines k) := by
    intro k hk
    obtain ⟨made, hmade, htext⟩ := comesOut_iff.1 (h k hk)
    have hline : lines k = made := by simp only [lines, hmade]; rfl
    exact hline ▸ ⟨hmade, htext⟩
  have hpass : Kind.all.mapM (selectedLines d (Phase.ofValue phase) (selects choice)) =
      .ok (Kind.all.map fun k => if selected k then lines k else []) := by
    apply mapM_eq_ok
    intro k _
    rw [selectedLines_eq (hselected k)]
    split_ifs with hk
    · exact (hlines k hk).1
    · rfl
  have htagged := map_filter_tagged selected lines (fragmentOf d phase) Kind.all
    fun k hk => ⟨(hlines k hk).2, ownLines_isHeaded d phase k _ (hlines k hk).1⟩
  rw [taggedFragments, ← htagged]
  unfold phaseFragments fragments fragmentLines
  rw [hpass]
  rfl

/-! ### The pass over all kinds -/

lemma selects_null (k : Kind) : selects .null k = .ok ((fun _ => true) k) := rfl

lemma phaseFragments_null_eq (h : ∀ k, ComesOut d phase k) :
    phaseFragments d phase .null = .ok ((taggedFragments d phase).map Prod.snd) := by
  rw [phaseFragments_eq selects_null fun k _ => h k]
  simp

lemma phaseFragments_choiceOf_eq (names : List String)
    (h : ∀ k, k.name ∈ names → ComesOut d phase k) :
    phaseFragments d phase (choiceOf names) =
      .ok (((taggedFragments d phase).filter fun p => p.1.name ∈ names).map Prod.snd) :=
  phaseFragments_eq (selects_choiceOf names) fun k hk => h k (of_decide_eq_true hk)

/-- The pass over some kinds is a projection of the pass over all of them. What comes out, or fails,
depends on which kinds are named and what is listed under their keys. If the fragments of all kinds
come out, then the pass over some of them picks their fragments. If the names of two lists part the
kinds, then so do their passes the fragments of all. -/
theorem phaseFragments_choiceOf (d phase : Value) (names : List String) :
    (∀ (d' : Value) (names' : List String), (∀ k : Kind, k.name ∈ names' ↔ k.name ∈ names) →
      (∀ k : Kind, k.name ∈ names → d.AgreeOn k.keys d') →
      phaseFragments d' phase (choiceOf names') = phaseFragments d phase (choiceOf names)) ∧
    (∀ full, phaseFragments d phase .null = .ok full →
      (∀ k, ComesOut d phase k) ∧ full = (taggedFragments d phase).map Prod.snd ∧
      phaseFragments d phase (choiceOf names) =
        .ok (((taggedFragments d phase).filter fun p => p.1.name ∈ names).map Prod.snd)) ∧
    ∀ names' : List String, (∀ k : Kind, k.name ∈ names' ↔ k.name ∉ names) →
      ∀ part part', phaseFragments d phase (choiceOf names) = .ok part →
        phaseFragments d phase (choiceOf names') = .ok part' →
        phaseFragments d phase .null = .ok ((taggedFragments d phase).map Prod.snd) ∧
        part = ((taggedFragments d phase).filter fun p => p.1.name ∈ names).map Prod.snd ∧
        part' = ((taggedFragments d phase).filter fun p => p.1.name ∉ names).map Prod.snd ∧
        (part ++ part').Perm ((taggedFragments d phase).map Prod.snd) := by
  refine ⟨fun d' names' hnames hd => ?_, fun full hfull => ?_,
    fun names' hnames part part' hpart hpart' => ?_⟩
  · symm
    refine phaseFragments_congr (selects_choiceOf names) (fun k => ?_)
      fun k hk => hd k (of_decide_eq_true hk)
    rw [selects_choiceOf, decide_eq_decide.2 (hnames k)]
  · have hall : ∀ k, ComesOut d phase k := fun k => comesOut_of_ok selects_null hfull rfl
    have heq := hfull.symm.trans (phaseFragments_null_eq hall)
    exact ⟨hall, Except.ok.inj heq, phaseFragments_choiceOf_eq names fun k _ => hall k⟩
  · have hall : ∀ k, ComesOut d phase k := by
      intro k
      by_cases hk : k.name ∈ names
      · exact comesOut_of_ok (selects_choiceOf names) hpart (decide_eq_true hk)
      · exact comesOut_of_ok (selects_choiceOf names') hpart' (decide_eq_true ((hnames k).2 hk))
    have heq := hpart.symm.trans (phaseFragments_choiceOf_eq names fun k _ => hall k)
    have heq' := hpart'.symm.trans (phaseFragments_choiceOf_eq names' fun k _ => hall k)
    simp only [hnames] at heq'
    obtain rfl := Except.ok.inj heq
    obtain rfl := Except.ok.inj heq'
    refine ⟨phaseFragments_null_eq hall, rfl, rfl, ?_⟩
    rw [← List.map_append]
    apply List.Perm.map
    simpa using List.filter_append_perm (fun p => p.1.name ∈ names) (taggedFragments d phase)

/-- With only the switches and lights chosen, it does no harm that the encoders are no list. -/
theorem phaseFragments_choiceOf_switches :
    let d : Value := .obj [("encoders", .arr [.obj []]), ("leds", .arr [.obj []]),
      ("switches", .arr [.obj []])]
    let d' : Value := .obj [("encoders", .bool true), ("leds", .arr [.obj []]),
      ("switches", .arr [.obj []])]
    let processing : Value := .str "processing"
    let names := ["switch", "led", "switch", "lamp"]
    let others := (Kind.all.map Kind.name).filter fun name => name ∉ names
    let full := ["// process encoders\nencoders[0].Debounce();",
      "// process leds\nleds[0].Update();", "// process switches\nswitches[0].Debounce();"]
    (∀ k : Kind, k.name ∈ ["led", "switch"] ↔ k.name ∈ names) ∧
      (∀ k : Kind, k.name ∈ names → d.AgreeOn k.keys d') ∧
      phaseFragments d' processing (choiceOf ["led", "switch"]) =
        phaseFragments d processing (choiceOf names) ∧
      phaseFragments d processing .null = .ok full ∧
      phaseFragments d processing (choiceOf names) = .ok (full.drop 1) ∧
      (∀ k : Kind, k.name ∈ others ↔ k.name ∉ names) ∧
      phaseFragments d processing (choiceOf others) = .ok (full.take 1) ∧
      (full.drop 1 ++ full.take 1).Perm ((taggedFragments d processing).map Prod.snd) := by
  intro d d' processing names others full
  obtain ⟨hsame, hpicked, hparted⟩ := phaseFragments_choiceOf d processing names
  have hnames : ∀ k : Kind, k.name ∈ ["led", "switch"] ↔ k.name ∈ names := by decide
  have hothers : ∀ k : Kind, k.name ∈ others ↔ k.name ∉ names := by decide
  have hagree : ∀ k : Kind, k.name ∈ names → d.AgreeOn k.keys d' := by
    intro k
    cases k <;> simp [Kind.name, names, Kind.keys, Value.AgreeOn, d, d', List.lookup_cons]
  have hfull : phaseFragments d processing .null = .ok full := by decide +kernel
  have hpart : phaseFragments d processing (choiceOf names) = .ok (full.drop 1) := by
    rw [(hpicked full hfull).2.2]
    decide +kernel
  have hpart' : phaseFragments d processing (choiceOf others) = .ok (full.take 1) := by
    decide +kernel
  exact ⟨hnames, hagree, hsame d' _ hnames hagree, hfull, hpart, hothers, hpart',
    (hparted others hothers _ _ hpart hpart').2.2.2⟩

end Description

end ControlSurface
