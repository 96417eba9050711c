import ControlSurface.Proofs.Generator.Slots
import ControlSurface.Proofs.Header.Layout

/-!
# Banks in the header

Every slot of every bank is brought up once and serviced once. The lines about a bank are told by
what they open with, and no other line of the header opens like that, whatever texts the description
holds.
-/

namespace ControlSurface

open Schema Text

namespace Bank

/-- What the lines about a bank open with. -/
def words (b : Bank) : List String := [b.arrayWord, b.referenceWord, b.slotWord]

/-- The frame of the header does not use the words of a bank. -/
lemma lacks_frame : ∀ b : Bank, ∀ word ∈ b.words,
    word ≠ "" ∧ Header.Lacks word Header.frame ∧ agree word "\x7d " = false := by
  decide

/-- Nor does any other kind. -/
lemma leads_apart : ∀ (b : Bank) (k : Kind), k.bank? ≠ some b → ∀ word ∈ b.words, ∀ p : Phase,
    ∀ lead ∈ k.leads p, isFlush lead = true ∧ agree word lead = false := by
  decide

/-- The array and its references are declared in one phase only. -/
lemma leads_apart_declaration : ∀ b : Bank, ∀ word ∈ [b.arrayWord, b.referenceWord], ∀ p : Phase,
    p ≠ .declaration → ∀ lead ∈ b.leads p, isFlush lead = true ∧ agree word lead = false := by
  decide

/-- There are no statements about slots among the declarations. -/
lemma leads_apart_slotWord : ∀ b : Bank, ∀ lead ∈ b.leads .declaration,
    isFlush lead = true ∧ agree b.slotWord lead = false := by
  decide

end Bank

namespace Header

/-- The routine that services a bank in every tick. -/
def routineOf? : Bank → Option String
  | .controls => some "ProcessAnalogControls"
  | .encoders => some "ProcessDigitalControls"
  | .gateInputs => none
  | .leds => some "UpdateLeds"
  | .rgbLeds => some "UpdateLeds"
  | .switches => some "ProcessDigitalControls"

/-- How a bank is written: the type of its slots, its array, the names under which the first slot is
reached without an index, the method that services a slot, and the keys under which a description
lists the entries. -/
structure Spelling where
  type : String
  array : String
  shortcuts : List String
  method? : Option String
  keys : List String
deriving DecidableEq

/-- How each bank is to be written. -/
def spellingOf : Bank → Spelling
  | .controls =>
    ⟨"AnalogControl", "controls", [], some "Process", ["analog_controls", "cv_inputs"]⟩
  | .encoders => ⟨"Encoder", "encoders", ["encoder"], some "Debounce", ["encoders"]⟩
  | .gateInputs => ⟨"GateIn", "gate_inputs", [], none, ["gate_inputs"]⟩
  | .leds => ⟨"Led", "leds", [], some "Update", ["leds"]⟩
  | .rgbLeds => ⟨"RgbLed", "rgb_leds", [], some "Update", ["rgb_leds"]⟩
  | .switches => ⟨"Switch", "switches", [], some "Debounce", ["switches"]⟩

/-- Whether a bank that holds a kind is written so by its generators. -/
def IsSpelled (k : Kind) (b : Bank) : Prop :=
  (⟨b.typeName, b.arrayName, b.shortcuts, b.service?, k.keys⟩ : Spelling) = spellingOf b

instance (k : Kind) (b : Bank) : Decidable (IsSpelled k b) :=
  inferInstanceAs (Decidable (_ = _))

/-- No bank is left out, and each is written as it is to be. -/
lemma isSpelled_bank : (∀ b : Bank, ∃ k ∈ Kind.all, k.bank? = some b) ∧
    ∀ k : Kind, ∀ b ∈ k.bank?, IsSpelled k b := by
  decide

variable {d : Value} {k : Kind} {b : Bank} {word structName : String}

section Bank

variable (hd : IsDescription d) (hone : d.IsOneLine) (hb : k.bank? = some b)
include hd hone hb

/-- The words of a bank are looked for in its own lines. -/
lemma opening_bank (hword : word ∈ b.words) (p : Phase) (selected : Kind → Bool) :
    Description.opening d p selected word =
      if selected k then (b.linesOf (Description.slots d k) p).filter (opens word) else [] := by
  rw [Description.opening_eq k, Description.linesOf_bank hd hb]
  intro k' hk'
  have hne : k'.bank? ≠ some b := fun h => hk' (Kind.bank?_injective hb h)
  exact Description.filter_opens_linesOf hd hone (b.leads_apart k' hne word hword p)

/-- A bank has no line that opens with a word in a phase that the word is not of. -/
lemma filter_linesOf_bank {p : Phase}
    (hleads : ∀ lead ∈ b.leads p, isFlush lead = true ∧ agree word lead = false) :
    (b.linesOf (Description.slots d k) p).filter (opens word) = [] := by
  rw [← Description.linesOf_bank hd hb]
  refine Description.filter_opens_linesOf hd hone ?_
  unfold Kind.leads
  rw [hb]
  exact hleads

/-- A word of a bank in the whole header, phase by phase. -/
lemma filter_linesOf_word (hword : word ∈ b.words) (structName : String) :
    (linesOf d structName).filter (opens word) =
      ((b.linesOf (Description.slots d k) .declaration).filter (opens word)).map (indent ++ ·) ++
      ((b.linesOf (Description.slots d k) .initialization).filter (opens word)).map
        (deepIndent ++ ·) ++
      duties.flatMap fun duty =>
        if duty.kinds.contains k then
          ((b.linesOf (Description.slots d k) .processing).filter (opens word)).map
            (deepIndent ++ ·)
        else [] := by
  obtain ⟨hne, hframe, hclose⟩ := b.lacks_frame _ hword
  rw [filter_linesOf hd hone hne hframe hclose, opening_bank hd hone hb hword,
    opening_bank hd hone hb hword, if_pos rfl, if_pos rfl]
  congr 1
  refine List.flatMap_congr fun duty _ => ?_
  rw [opening_bank hd hone hb hword]
  split_ifs <;> rfl

/-- What is declared is found among the declarations. -/
lemma filter_declared (hword : word ∈ [b.arrayWord, b.referenceWord]) (structName : String) :
    (linesOf d structName).filter (opens word) =
      ((b.linesOf (Description.slots d k) .declaration).filter (opens word)).map
        (indent ++ ·) := by
  have hother (p : Phase) (hp : p ≠ .declaration) :
      (b.linesOf (Description.slots d k) p).filter (opens word) = [] :=
    filter_linesOf_bank hd hone hb (b.leads_apart_declaration word hword p hp)
  have hmem : word ∈ b.words := List.mem_append_left [b.slotWord] hword
  rw [filter_linesOf_word hd hone hb hmem, hother .initialization (by decide),
    hother .processing (by decide)]
  simp

theorem filter_arrayWord (structName : String) :
    (linesOf d structName).filter (opens b.arrayWord) =
      if (Description.slots d k).isEmpty then []
      else [indent ++ b.arrayLine (Description.slots d k).length] := by
  rw [filter_declared hd hone hb (by simp), b.filter_arrayWord]
  split_ifs <;> rfl

theorem filter_referenceWord (structName : String) :
    (linesOf d structName).filter (opens b.referenceWord) =
      if (Description.slots d k).isEmpty then []
      else (b.referenceLines (Description.slots d k)).map (indent ++ ·) := by
  rw [filter_declared hd hone hb (by simp), b.filter_referenceWord]
  split_ifs <;> rfl

omit hd hone in
/-- A bank that is serviced belongs to one duty. -/
lemma flatMap_duties {lines : List String} (h : b.service? = none → lines = []) :
    (duties.flatMap fun duty => if duty.kinds.contains k then lines else []) = lines := by
  cases k with
  | gateInput =>
    cases hb
    rw [h rfl]
    simp
  | analogControl => simp [duties, controlDuties, lightDuty]
  | encoder => simp [duties, controlDuties, lightDuty]
  | led => simp [duties, controlDuties, lightDuty]
  | rgbLed => simp [duties, controlDuties, lightDuty]
  | switch => simp [duties, controlDuties, lightDuty]
  | _ => cases hb

theorem filter_slotWord (structName : String) :
    (linesOf d structName).filter (opens b.slotWord) =
      (b.slotLines (Description.slots d k) ++
        b.servicing (Description.slots d k).length).map (deepIndent ++ ·) := by
  have hword : b.slotWord ∈ b.words := by simp [Bank.words]
  have hdeclaration : (b.linesOf (Description.slots d k) .declaration).filter
      (opens b.slotWord) = [] := filter_linesOf_bank hd hone hb b.leads_apart_slotWord
  rw [filter_linesOf_word hd hone hb hword, hdeclaration, b.filter_slotWord_initialization,
    b.filter_slotWord_processing, flatMap_duties hb, List.map_append]
  · rfl
  · intro hservice
    rw [Bank.servicing, hservice]
    rfl

/-! ### Routines -/

theorem filter_slotWord_bringUp (structName : String) :
    (bodyOf bringUpSignature (linesOf d structName)).filter (opens b.slotWord) =
      (b.slotLines (Description.slots d k)).map (deepIndent ++ ·) := by
  have hword : b.slotWord ∈ b.words := by simp [Bank.words]
  obtain ⟨hne, hframe, -⟩ := b.lacks_frame _ hword
  rw [bodyOf_bringUp hd hone,
    filter_bringUpBody hd hone hne (hframe.of_subset (by decide)),
    opening_bank hd hone hb hword, if_pos rfl, b.filter_slotWord_initialization]

theorem filter_slotWord_routine {name : String} (hname : routineOf? b = some name)
    (structName : String) :
    (bodyOf s!"void {name}()" (linesOf d structName)).filter (opens b.slotWord) =
      (b.servicing (Description.slots d k).length).map (deepIndent ++ ·) := by
  have hword : b.slotWord ∈ b.words := by simp [Bank.words]
  have hall : ∀ k : Kind, ∀ b ∈ k.bank?, ∀ name ∈ routineOf? b,
      ∃ duty ∈ duties, duty.routine = name ∧ duty.kinds.contains k = true := by
    decide
  obtain ⟨duty, hduty, rfl, hk⟩ := hall k b hb name hname
  have hbody : bodyOf s!"void {duty.routine}()" (linesOf d structName) = dutyBody d duty :=
    bodyOf_duty hd hone hduty structName
  rw [hbody, filter_dutyBody hd hone (b.lacks_frame _ hword).1,
    opening_bank hd hone hb hword, if_pos hk, b.filter_slotWord_processing]

/-- The lines that bring up a bank stand together, in their order. -/
theorem initLines_infix (hslots : Description.slots d k ≠ []) (structName : String) :
    (b.initLines (Description.slots d k)).map (deepIndent ++ ·) <:+:
      bodyOf bringUpSignature (linesOf d structName) := by
  have hlines : Description.linesOf d .initialization k =
      bracketed b.arrayName (b.initLines (Description.slots d k)) := by
    rw [Description.linesOf_bank hd hb, Bank.linesOf, if_neg (by simpa using hslots)]
  have hblock := infix_bringUpBody hd hone k
  rw [hlines] at hblock
  rw [bodyOf_bringUp hd hone]
  exact ((infix_bracketed _ _).map _).trans hblock

end Bank

end Header

end ControlSurface
