import ControlSurface.Proofs.Generator.Rendered

/-!
# Lines of fragments

What a kind contributes to a phase for a normalized description: it always comes out, and if the
description has no line boundaries then its lines open with the few words of the kind.
-/

namespace ControlSurface

open Schema Text

/-! ### Entries without line boundaries -/

namespace Description

variable {d e : Value} {k : Kind} {key : String}

lemma oneLine_of_mem_listed (hd : d.IsOneLine) (he : e ∈ listed d key) : e.IsOneLine := by
  unfold listed at he
  split at he
  swap
  · exact absurd he List.not_mem_nil
  split at he
  swap
  · exact absurd he List.not_mem_nil
  next hlookup => exact (hd.lookup hlookup).mem e he

lemma oneLine_of_mem_slots (hd : d.IsOneLine) (he : e ∈ slots d k) : e.IsOneLine := by
  obtain ⟨key, -, hlisted⟩ := mem_slots he
  exact oneLine_of_mem_listed hd hlisted

lemma isObject_of_mem_slots (hd : IsDescription d) (he : e ∈ slots d k) : e.IsObject := by
  obtain ⟨key, hkey, hlisted⟩ := mem_slots he
  obtain ⟨record, hrecord⟩ := exists_isListedAs hkey
  exact isObject_of_fits (listed_fits hd hrecord e hlisted)

end Description

/-- A label is written on one line. -/
lemma Label.oneLine_of_mem_contents {e label : Value} (he : e.IsOneLine) (hlabelled : IsLabelled e)
    (hlabel : label ∈ (e.field "labels").contents) : OneLine label.text := by
  have hobject : e.IsObject := by
    cases e with
    | obj fields => exact ⟨fields, rfl⟩
    | _ => rcases hlabelled with ⟨hget, -⟩ | hget <;> cases hget
  have hfield {w : Value} (hget : e.get "labels" = .ok w) : e.field "labels" = w :=
    Except.ok.inj ((Value.get_eq_field hobject _).symm.trans hget)
  rcases hlabelled with ⟨hget, -⟩ | hget
  · rw [hfield hget] at hlabel
    exact absurd hlabel List.not_mem_nil
  · rw [hfield hget, Value.contents_arr] at hlabel
    have hone := (he.get hget).mem label hlabel
    obtain ⟨name, -, rfl⟩ := List.mem_map.1 hlabel
    rwa [Value.IsOneLine] at hone

/-- Whether a field of an entry is a simple one. -/
def Schema.EntryType.isSimple : EntryType → Bool
  | .scalar _ => true
  | _ => false

lemma Schema.EntryType.exists_eq_scalar {t : EntryType} (h : t.isSimple = true) :
    ∃ type, t = .scalar type := by
  cases t with
  | scalar type => exact ⟨type, rfl⟩
  | labels => cases h
  | settings record => cases h

/-- Every field that a bank writes as it stands is a simple field of its entries. -/
lemma writtenKeys_isSimple : ∀ k : Kind, ∀ b ∈ k.bank?, ∀ f ∈ hardware.fields,
    f.spelling ∈ k.keys → ∀ key ∈ b.writtenKeys,
      ∃ g ∈ f.type.fields, g.spelling = key ∧ g.type.isSimple = true := by
  decide

lemma oneLine_writtenKeys {d e : Value} {k : Kind} {b : Bank} (hd : IsDescription d)
    (hone : d.IsOneLine) (hb : k.bank? = some b) (he : e ∈ Description.slots d k) :
    ∀ key ∈ b.writtenKeys, OneLine (fieldOf e key) := by
  intro key hkey
  obtain ⟨listKey, hlistKey, hlisted⟩ := Description.mem_slots he
  obtain ⟨record, hrecord⟩ := Description.exists_isListedAs hlistKey
  obtain ⟨g, hg, rfl, hsimple⟩ :=
    writtenKeys_isSimple k b hb _ hrecord hlistKey key hkey
  obtain ⟨t, htype⟩ := EntryType.exists_eq_scalar hsimple
  refine oneLine_fieldOf (Description.listed_fits hd hrecord e hlisted)
    (Description.oneLine_of_mem_listed hone hlisted) hg (t := t) ?_
  rw [htype]
  exact fun _ hw => hw

/-! ### Banks -/

namespace Bank

/-- What a bank contributes to a phase. -/
def linesOf (b : Bank) (entries : List Value) : Phase → List String
  | .inclusion => []
  | .declaration =>
    if entries.isEmpty then []
    else b.declarationHead entries.length ++ (Label.aliases entries).map b.aliasLine
  | .initialization =>
    if entries.isEmpty then [] else bracketed b.arrayName (b.initLines entries)
  | .processing =>
    match b.service? with
    | some method =>
      if entries.isEmpty then []
      else s!"// process {b.arrayName}" :: b.serviceLines method entries.length
    | none => []

end Bank

namespace Kind

variable {d : Value} {k : Kind} {b : Bank} {entries : List Value}

/-- What is serviced does not depend on more than the number of the entries. -/
lemma fragmentLines_processing (k : Kind) (entries : List Value) :
    k.fragmentLines .processing (.arr entries) =
      .ok ((k.bank?.map fun b => b.linesOf entries .processing).getD []) := by
  rw [fragmentLines, generator?]
  cases k.bank? with
  | none => rfl
  | some b =>
    rw [Option.bind_some, Option.map_some, Option.getD_some, Bank.linesOf]
    cases b.service? with
    | none => rfl
    | some method => exact whenPresent_eq (b.serviceAll_eq method entries)

lemma fragmentLines_of_bank (hb : k.bank? = some b) (hobject : ∀ e ∈ entries, e.IsObject)
    (hlabelled : ∀ e ∈ entries, Label.IsLabelled e) (p : Phase) :
    k.fragmentLines p (.arr entries) = .ok (b.linesOf entries p) := by
  have hdisplay := ne_oledDisplay_of_bank? hb
  have hcv : k ≠ .cvOutput := by
    rintro rfl
    cases hb
  cases p with
  | inclusion =>
    rw [fragmentLines, generator?, if_neg hdisplay]
    rfl
  | declaration =>
    rw [fragmentLines, generator?, if_neg hdisplay, hb]
    exact whenPresent_eq (b.declare_eq hlabelled)
  | initialization =>
    rw [fragmentLines, generator?, if_neg hdisplay, if_neg hcv, hb]
    exact whenPresent_eq (b.bringUp_eq hobject)
  | processing => rw [fragmentLines_processing, hb, Option.map_some, Option.getD_some]

/-- No two kinds share a bank. -/
lemma bank?_injective {k k' : Kind} {b : Bank} (h : k.bank? = some b) (h' : k'.bank? = some b) :
    k' = k := by
  have hall : ∀ k k' : Kind, k.bank?.isSome → k'.bank? = k.bank? → k' = k := by decide
  exact hall k k' (by rw [h]; rfl) (h'.trans h.symm)

/-- The displays of a normalized description. -/
lemma display_fits_of_mem_slots (hd : IsDescription d) {e : Value}
    (he : e ∈ Description.slots d .oledDisplay) : Schema.display.Fits EntryType.Fits e := by
  have hlisted : Description.IsListedAs "oled_displays" Schema.display := by
    simp [Description.IsListedAs, hardware]
  obtain ⟨key, hkey, he⟩ := Description.mem_slots he
  obtain rfl : key = "oled_displays" := List.mem_singleton.1 hkey
  exact Description.listed_fits hd hlisted e he

lemma isEntry_of_mem_slots (hd : IsDescription d) (hone : d.IsOneLine) {e : Value}
    (he : e ∈ Description.slots d .oledDisplay) : Display.IsEntry e :=
  ⟨display_fits_of_mem_slots hd he, Description.oneLine_of_mem_slots hone he⟩

lemma exists_fragmentLines_oledDisplay (hd : IsDescription d) (p : Phase) :
    ∃ lines, oledDisplay.fragmentLines p (.arr (Description.slots d .oledDisplay)) =
      .ok lines := by
  have hfits : ∀ e ∈ Description.slots d .oledDisplay, Schema.display.Fits EntryType.Fits e :=
    fun e he => display_fits_of_mem_slots hd he
  have hobject : ∀ e ∈ Description.slots d .oledDisplay, e.IsObject :=
    fun e he => Description.isObject_of_mem_slots hd he
  cases p with
  | inclusion =>
    obtain ⟨needs, hneeds⟩ := Display.inclusions_eq hobject
    exact ⟨_, hneeds⟩
  | declaration => exact ⟨_, whenPresent_eq (Display.declare_eq hobject)⟩
  | initialization =>
    exact ⟨_, whenPresent_eq (Display.bringUp_eq fun e he =>
      Display.isConfigured_of_fits (hfits e he))⟩
  | processing => exact ⟨[], rfl⟩

/-- Every fragment of a normalized description comes out. -/
theorem exists_fragmentLines (hd : IsDescription d) (k : Kind) (p : Phase) :
    ∃ lines, k.fragmentLines p (.arr (Description.slots d k)) = .ok lines := by
  cases hb : k.bank? with
  | some b =>
    exact ⟨_, fragmentLines_of_bank hb (fun e he => Description.isObject_of_mem_slots hd he)
      (fun e he => Label.isLabelled_of_mem_slots hd he) p⟩
  | none =>
    cases k with
    | oledDisplay => exact exists_fragmentLines_oledDisplay hd p
    | cvOutput =>
      cases p with
      | initialization =>
        let generate : Generator := fun _ => .ok bringUpCvOutputs
        exact ⟨_, (whenPresent_eq rfl : whenPresent generate _ = _)⟩
      | _ => exact ⟨[], rfl⟩
    | gateOutput => cases p <;> exact ⟨[], rfl⟩
    | midiHandler => cases p <;> exact ⟨[], rfl⟩
    | _ => cases hb

/-- What is written of the entries of a normalized description is on one line. -/
lemma rendersOneLine_slots (hd : IsDescription d) (hone : d.IsOneLine) (k : Kind) :
    k.RendersOneLine (Description.slots d k) where
  bank b hb := by
    refine ⟨fun e he label hlabel => ?_, fun e he => oneLine_writtenKeys hd hone hb he⟩
    exact Label.oneLine_of_mem_contents (Description.oneLine_of_mem_slots hone he)
      (Label.isLabelled_of_mem_slots hd he) hlabel
  display hk e he := by
    subst hk
    exact (isEntry_of_mem_slots hd hone he).isWritten

/-- The lines of every fragment open with the words of its kind. -/
theorem fragmentLines_led (hd : IsDescription d) (hone : d.IsOneLine) (k : Kind) (p : Phase) :
    ∃ lines, k.fragmentLines p (.arr (Description.slots d k)) = .ok lines ∧
      AllLed (k.leads p) lines := by
  obtain ⟨lines, hlines⟩ := exists_fragmentLines hd k p
  exact ⟨lines, hlines, fragmentLines_yields (rendersOneLine_slots hd hone k) p lines hlines⟩

end Kind

lemma flatMap_filter_of_eq_nil {α β : Type} {p : α → Bool} {f : α → List β} (l : List α)
    (h : ∀ a, p a = false → f a = []) : (l.filter p).flatMap f = l.flatMap f := by
  induction l with
  | nil => rfl
  | cons a l ih => cases hp : p a <;> simp [hp, ih, h]

/-! ### Descriptions -/

namespace Description

variable {d : Value} {k : Kind} {p : Phase}

/-- What a kind contributes to a phase, nothing if it does not come out. -/
def linesOf (d : Value) (p : Phase) (k : Kind) : List String :=
  (k.fragmentLines p (.arr (slots d k))).toOption.getD []

lemma fragmentLines_eq_linesOf (hd : IsDescription d) (k : Kind) (p : Phase) :
    k.fragmentLines p (.arr (slots d k)) = .ok (linesOf d p k) := by
  obtain ⟨lines, hlines⟩ := Kind.exists_fragmentLines hd k p
  rw [linesOf, hlines]
  rfl

theorem linesOf_led (hd : IsDescription d) (hone : d.IsOneLine) (k : Kind) (p : Phase) :
    AllLed (k.leads p) (linesOf d p k) := by
  obtain ⟨lines, hlines, hled⟩ := Kind.fragmentLines_led hd hone k p
  rw [linesOf, hlines]
  exact hled

lemma linesOf_bank (hd : IsDescription d) {b : Bank} (hb : k.bank? = some b) (p : Phase) :
    linesOf d p k = b.linesOf (slots d k) p := by
  rw [linesOf, Kind.fragmentLines_of_bank hb (fun e he => isObject_of_mem_slots hd he)
    (fun e he => Label.isLabelled_of_mem_slots hd he)]
  rfl

lemma linesOf_oledDisplay (hd : IsDescription d) : linesOf d .declaration .oledDisplay =
    if (slots d .oledDisplay).isEmpty then [] else
      Display.declarationLines (slots d .oledDisplay) := by
  rw [linesOf, Kind.fragmentLines, Kind.generator?, if_pos rfl, Option.getD_some,
    Kind.whenPresent_eq (Display.declare_eq fun e he => isObject_of_mem_slots hd he)]
  rfl

/-- The block that brings up the displays. -/
lemma linesOf_oledDisplay_initialization (hd : IsDescription d) :
    linesOf d .initialization .oledDisplay =
      if (slots d .oledDisplay).isEmpty then [] else
        Display.bringUpBlock (slots d .oledDisplay) := by
  rw [linesOf, Kind.fragmentLines, Kind.generator?, if_pos rfl, Option.getD_some,
    Kind.whenPresent_eq (Display.bringUp_eq fun e he =>
      Display.isConfigured_of_fits (Kind.display_fits_of_mem_slots hd he))]
  rfl

/-- The block that brings up the converter of the CV outputs. -/
lemma linesOf_cvOutput (d : Value) : linesOf d .initialization .cvOutput =
    if (slots d .cvOutput).isEmpty then [] else bringUpCvOutputs := by
  rw [linesOf, Kind.fragmentLines, Kind.generator?, if_neg (by decide), if_pos rfl,
    Option.getD_some, Kind.whenPresent_eq rfl]
  rfl

/-- Only displays have anything brought in. -/
lemma linesOf_inclusion (hd : IsDescription d) : ∃ needs : Bool,
    ∀ k, linesOf d .inclusion k =
      if k = .oledDisplay then if needs then [Display.familyHeader] else [] else [] := by
  have hobject : ∀ e ∈ slots d .oledDisplay, e.IsObject :=
    fun e he => isObject_of_mem_slots hd he
  obtain ⟨needs, hneeds⟩ := Display.inclusions_eq hobject
  refine ⟨needs, fun k => ?_⟩
  rw [linesOf, Kind.fragmentLines, Kind.generator?]
  by_cases hk : k = .oledDisplay
  · subst hk
    rw [if_pos rfl, if_pos rfl, Option.getD_some, hneeds]
    rfl
  · rw [if_neg hk, if_neg hk]
    rfl

/-- Every line of a fragment has something on it. -/
lemma solid_of_mem_linesOf (hd : IsDescription d) (hone : d.IsOneLine) {line : String}
    (hline : line ∈ linesOf d p k) : Solid line :=
  Kind.solid_of_allLed (linesOf_led hd hone k p) line hline

/-- What the selected kinds have to say, those that have nothing left out. -/
def blocks (lines : Kind → List String) (selected : Kind → Bool) : List (List String) :=
  (Kind.all.map fun k => if selected k then lines k else []).filter fun block => !block.isEmpty

/-- If every selected kind has its lines, they are the fragments. -/
lemma fragments_eq_blocks {entries : Kind → List Value} {lines : Kind → List String}
    {selected : Kind → Bool}
    (h : ∀ k, selected k = true → entriesOf d k = .ok (entries k) ∧
      k.fragmentLines p (.arr (entries k)) = .ok (lines k)) :
    fragments d (.ok p) (fun k => .ok (selected k)) =
      .ok ((blocks lines selected).map fragmentText) := by
  have hlines : Kind.all.mapM (selectedLines d (.ok p) fun k => .ok (selected k)) =
      .ok (Kind.all.map fun k => if selected k then lines k else []) := by
    refine mapM_eq_ok fun k _ => ?_
    unfold selectedLines
    dsimp only [bind, Except.bind]
    split_ifs with hselected
    · obtain ⟨hentries, hfragment⟩ := h k hselected
      rw [hentries]
      exact hfragment
    · rfl
  rw [fragments, fragmentLines, hlines]
  rfl

/-- The lines of the fragments of some kinds for a phase. -/
def blocksOf (d : Value) (p : Phase) (selected : Kind → Bool) : List (List String) :=
  blocks (linesOf d p) selected

theorem fragments_eq (hd : IsDescription d) (p : Phase) (selected : Kind → Bool) :
    fragments d (.ok p) (fun k => .ok (selected k)) =
      .ok ((blocksOf d p selected).map fragmentText) :=
  fragments_eq_blocks fun k _ => ⟨entriesOf_eq hd k, fragmentLines_eq_linesOf hd k p⟩

lemma solid_of_mem_blocksOf (hd : IsDescription d) (hone : d.IsOneLine) {selected : Kind → Bool} :
    ∀ block ∈ blocksOf d p selected, ∀ line ∈ block, Solid line := by
  intro block hblock line hline
  obtain ⟨k, -, rfl⟩ := List.mem_map.1 (List.mem_filter.1 hblock).1
  split_ifs at hline
  · exact solid_of_mem_linesOf hd hone hline
  · exact absurd hline List.not_mem_nil

/-- The lines of some kinds for a phase that open with a word. -/
def opening (d : Value) (p : Phase) (selected : Kind → Bool) (word : String) : List String :=
  Kind.all.flatMap fun k => if selected k then (linesOf d p k).filter (opens word) else []

/-- What is gathered from the blocks is gathered kind by kind. -/
lemma flatMap_blocksOf {β : Type} {f : List String → List β} (hf : f [] = []) (d : Value)
    (p : Phase) (selected : Kind → Bool) :
    (blocksOf d p selected).flatMap f =
      Kind.all.flatMap fun k => if selected k then f (linesOf d p k) else [] := by
  have hnonempty : ∀ lines : List String, (!lines.isEmpty) = false → f lines = [] := by
    intro lines hlines
    rw [Bool.not_eq_false', List.isEmpty_iff] at hlines
    rw [hlines, hf]
  rw [blocksOf, blocks, flatMap_filter_of_eq_nil _ hnonempty, List.flatMap_map]
  congr 1
  funext k
  split_ifs
  · rfl
  · exact hf

lemma flatMap_filter_blocksOf (d : Value) (p : Phase) (selected : Kind → Bool) (word : String) :
    (blocksOf d p selected).flatMap (List.filter (opens word)) = opening d p selected word :=
  flatMap_blocksOf rfl d p selected

/-- A word opens no line of a kind if it does not agree with the words of the kind. -/
lemma filter_opens_linesOf (hd : IsDescription d) (hone : d.IsOneLine) {word : String}
    (hleads : ∀ lead ∈ k.leads p, isFlush lead = true ∧ agree word lead = false) :
    (linesOf d p k).filter (opens word) = [] :=
  (linesOf_led hd hone k p).filter_opens hleads

/-- A word that opens the lines of one kind only is looked for there. -/
lemma opening_eq {selected : Kind → Bool} {word : String} (k : Kind)
    (h : ∀ k' ≠ k, (linesOf d p k').filter (opens word) = []) :
    opening d p selected word =
      if selected k then (linesOf d p k).filter (opens word) else [] := by
  have hpick (f : Kind → List String) (hf : ∀ k' ≠ k, f k' = []) : Kind.all.flatMap f = f k := by
    cases k <;> simp [Kind.all, hf]
  refine hpick _ fun k' hk' => ?_
  rw [h k' hk']
  split_ifs <;> rfl

end Description

end ControlSurface
