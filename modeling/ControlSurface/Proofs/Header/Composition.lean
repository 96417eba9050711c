import ControlSurface.Proofs.Generator.Rendered
import ControlSurface.Proofs.Header.Failure
import ControlSurface.Proofs.Header.Readback
import ControlSurface.Proofs.Members

/-!
# Composition of the header

Putting the fragments together loses none of them and mixes none with another: whenever a header
comes out, and whatever has not been checked of its description, the fragments of every phase are
read back from its lines, as long as what is written in them is on one line each. The routines that
are called in every tick share the fragments among them, since each kind that is serviced at all is
serviced by one of them.
-/

namespace ControlSurface

open Text

/-! ### Duties share the kinds -/

namespace Description

variable {lines : Kind → List String}

lemma filter_map_ite (lines : Kind → List String) (selected : Kind → Bool) (l : List Kind) :
    (l.map fun k => if selected k then lines k else []).filter (fun block => !block.isEmpty) =
      (l.filter fun k => selected k && !(lines k).isEmpty).map lines := by
  induction l with
  | nil => rfl
  | cons k l ih =>
    cases hselected : selected k with
    | false => simpa [hselected] using ih
    | true => cases hempty : (lines k).isEmpty <;> simpa [hselected, hempty] using ih

lemma blocks_eq (lines : Kind → List String) (selected : Kind → Bool) :
    blocks lines selected =
      (Kind.all.filter fun k => selected k && !(lines k).isEmpty).map lines :=
  filter_map_ite lines selected Kind.all

/-- The kinds of all duties are those that some duty services, in another order. -/
lemma kinds_perm : (Header.duties.flatMap fun duty => Kind.all.filter duty.kinds.contains).Perm
    (Kind.all.filter fun k => Header.duties.any fun duty => duty.kinds.contains k) := by
  decide

/-- If every kind that has any lines is serviced by some duty, then the duties have all blocks
between them. -/
theorem blocks_perm (h : ∀ k, lines k ≠ [] → ∃ duty ∈ Header.duties, duty.kinds.contains k = true) :
    (Header.duties.flatMap fun duty => blocks lines fun k => duty.kinds.contains k).Perm
      (blocks lines fun _ => true) := by
  have hduties : (Header.duties.flatMap fun duty => blocks lines fun k => duty.kinds.contains k) =
      ((Header.duties.flatMap fun duty => Kind.all.filter duty.kinds.contains).filter
        fun k => !(lines k).isEmpty).map lines := by
    rw [List.filter_flatMap, List.map_flatMap]
    apply List.flatMap_congr
    intro duty _
    rw [blocks_eq, List.filter_filter]
    simp only [Bool.and_comm]
  have hall : (blocks lines fun _ => true) =
      ((Kind.all.filter fun k => Header.duties.any fun duty => duty.kinds.contains k).filter
        fun k => !(lines k).isEmpty).map lines := by
    rw [blocks_eq, List.filter_filter]
    congr 1
    apply List.filter_congr
    intro k _
    rw [Bool.true_and, Bool.eq_iff_iff, Bool.and_eq_true, iff_self_and, List.any_eq_true]
    intro hnonempty
    exact h k (by simpa using hnonempty)
  rw [hduties, hall]
  exact (kinds_perm.filter _).map lines

/-- Blocks of different kinds differ if their kinds can be told from them. -/
lemma nodup_blocks (h : ∀ k k', lines k ≠ [] → lines k = lines k' → k = k') :
    (blocks lines fun _ => true).Nodup := by
  have hkinds : Kind.all.Nodup := by decide
  rw [blocks_eq]
  refine List.Nodup.map_on ?_ (hkinds.filter _)
  intro k hk k' _ heq
  exact h k k' (by simpa using (List.mem_filter.1 hk).2) heq

end Description

/-! ### Lines that are serviced -/

/-- The comment before the lines that service a bank tells the bank. -/
lemma Bank.linesOf_processing {b : Bank} {entries : List Value}
    (h : b.linesOf entries .processing ≠ []) : b.service?.isSome = true ∧
      (b.linesOf entries .processing).head? = some s!"// process {b.arrayName}" := by
  rw [Bank.linesOf] at h ⊢
  cases hservice : b.service? with
  | none => simp [hservice] at h
  | some method =>
    cases entries with
    | nil => simp [hservice] at h
    | cons e rest => exact ⟨rfl, rfl⟩

lemma Bank.eq_of_comment : ∀ b other : Bank,
    s!"// process {b.arrayName}" = s!"// process {other.arrayName}" → b = other := by
  decide

/-- Every kind that is serviced belongs to a duty. -/
lemma Kind.exists_duty : ∀ k : Kind, ∀ b ∈ k.bank?, b.service?.isSome = true →
    ∃ duty ∈ Header.duties, duty.kinds.contains k = true := by
  decide

namespace Description

variable {d : Value} {k k' : Kind} {p : Phase}

/-- What a kind contributes to a phase for a description that nobody has checked, nothing if it does
not come out. -/
def contributed (d : Value) (p : Phase) (k : Kind) : List String :=
  (k.fragmentLines p (.arr (gathered d k))).toOption.getD []

lemma exists_bank_of_contributed (h : contributed d .processing k ≠ []) :
    ∃ b, k.bank? = some b ∧ b.service?.isSome = true ∧
      (contributed d .processing k).head? = some s!"// process {b.arrayName}" := by
  rw [contributed, Kind.fragmentLines_processing] at h ⊢
  cases hb : k.bank? with
  | none => simp [hb, Except.toOption] at h
  | some b =>
    rw [hb] at h
    obtain ⟨hservice, hhead⟩ := Bank.linesOf_processing h
    exact ⟨b, rfl, hservice, hhead⟩

lemma exists_duty_of_contributed (h : contributed d .processing k ≠ []) :
    ∃ duty ∈ Header.duties, duty.kinds.contains k = true := by
  obtain ⟨b, hb, hservice, -⟩ := exists_bank_of_contributed h
  exact Kind.exists_duty k b hb hservice

lemma eq_of_contributed_eq (h : contributed d .processing k ≠ [])
    (heq : contributed d .processing k = contributed d .processing k') : k = k' := by
  obtain ⟨b, hb, -, hhead⟩ := exists_bank_of_contributed h
  obtain ⟨b', hb', -, hhead'⟩ := exists_bank_of_contributed (heq ▸ h)
  rw [heq, hhead'] at hhead
  obtain rfl := Bank.eq_of_comment _ _ (Option.some.inj hhead)
  exact Kind.bank?_injective hb' hb

/-! ### Fragments of a description -/

/-- The fragments of a phase, those that do not come out left out. -/
def contributedTexts (d : Value) (p : Phase) (selected : Kind → Bool) : List String :=
  (blocks (contributed d p) selected).map fragmentText

/-- Whether everything that is written of a description is on one line. -/
def RendersOneLine (d : Value) : Prop := ∀ k : Kind, k.RendersOneLine (gathered d k)

section Fine

variable (hfine : ∀ p k, ¬Stumbles d p k)
include hfine

lemma entriesOf_eq_gathered (k : Kind) : entriesOf d k = .ok (gathered d k) := by
  obtain ⟨entries, hentries⟩ := (entriesOf_failsIff d k).exists_ok
    (not_or.1 (hfine .inclusion k)).1
  rw [hentries, eq_gathered hentries]

lemma fragmentLines_eq_contributed (p : Phase) (k : Kind) :
    k.fragmentLines p (.arr (gathered d k)) = .ok (contributed d p k) := by
  obtain ⟨lines, hlines⟩ := (k.fragmentLines_failsIff p).exists_ok (not_or.1 (hfine p k)).2
  rw [contributed, hlines]
  rfl

lemma fragments_eq_contributed (p : Phase) (selected : Kind → Bool) :
    fragments d (.ok p) (fun k => .ok (selected k)) = .ok (contributedTexts d p selected) :=
  fragments_eq_blocks fun k _ =>
    ⟨entriesOf_eq_gathered hfine k, fragmentLines_eq_contributed hfine p k⟩

lemma phaseFragments_eq_contributed (p : Phase) :
    phaseFragments d (.str p.name) .null = .ok (contributedTexts d p fun _ => true) := by
  rw [phaseFragments, Phase.ofValue_name]
  exact fragments_eq_contributed hfine p fun _ => true

lemma contributed_led (h : RendersOneLine d) (p : Phase) (k : Kind) :
    AllLed (k.leads p) (contributed d p k) :=
  Kind.fragmentLines_yields (h k) p _ (fragmentLines_eq_contributed hfine p k)

lemma contributed_inclusion : ∃ needs : Bool, ∀ k, contributed d .inclusion k =
    if k = .oledDisplay then if needs then [Display.familyHeader] else [] else [] := by
  have hlines := fragmentLines_eq_contributed hfine .inclusion .oledDisplay
  obtain ⟨needs, hneeds⟩ := Display.inclusions_yields _ _ hlines
  refine ⟨needs, fun k => ?_⟩
  by_cases hk : k = .oledDisplay
  · rw [if_pos hk, hk, hneeds]
  · rw [if_neg hk, contributed, Kind.fragmentLines_inclusion hk]
    rfl

end Fine

/-- The fragments that are serviced are told apart by their texts. -/
lemma nodup_contributedTexts
    (hled : ∀ k, AllLed (k.leads .processing) (contributed d .processing k)) :
    (contributedTexts d .processing fun _ => true).Nodup := by
  have hsolid : ∀ block ∈ blocks (contributed d .processing) fun _ => true,
      ∀ line ∈ block, Solid line := by
    intro block hblock
    rw [blocks_eq] at hblock
    obtain ⟨k, -, rfl⟩ := List.mem_map.1 hblock
    exact Kind.solid_of_allLed (hled k)
  have hblocks : (blocks (contributed d .processing) fun _ => true).Nodup :=
    nodup_blocks fun k k' => eq_of_contributed_eq
  refine List.Nodup.map_on ?_ hblocks
  intro block hblock block' hblock' heq
  have hcut (block : List String) (h : ∀ line ∈ block, Solid line) :
      splitLines (fragmentText block) = block :=
    splitLines_intercalate (fun line hline => (h line hline).oneLine)
      fun line hline => (h line hline).ne_empty
  rw [← hcut block (hsolid block hblock), heq, hcut block' (hsolid block' hblock')]

end Description

namespace Header

variable {d : Value} {structName text : String}

/-- The parts of the header of a description that nobody has checked. -/
def contributedParts (d : Value) : Parts :=
  .of (fun p => Description.contributedTexts d p fun _ => true) fun duty =>
    Description.contributedTexts d .processing fun k => duty.kinds.contains k

section Fine

variable (hfine : ∀ p k, ¬Description.Stumbles d p k)
include hfine

lemma isOf_contributedParts : (contributedParts d).IsOf d where
  inclusions := Description.fragments_eq_contributed hfine .inclusion _
  declarations := Description.fragments_eq_contributed hfine .declaration _
  initializations := Description.fragments_eq_contributed hfine .initialization _
  serviced _ := Description.fragments_eq_contributed hfine .processing _

lemma isSound_contributedParts (h : Description.RendersOneLine d) :
    (contributedParts d).IsSound where
  inclusions := by
    obtain ⟨needs, hneeds⟩ := Description.contributed_inclusion hfine
    exact ⟨needs, map_blocks_inclusion hneeds⟩
  declarations := areContributed_blocks (Description.contributed_led hfine h _) _
  initializations := areContributed_blocks (Description.contributed_led hfine h _) _
  serviced _ := areContributed_blocks (Description.contributed_led hfine h _) _

lemma readsBack_contributedParts (h : Description.RendersOneLine d) (structName : String) :
    ReadsBack ((contributedParts d).lines structName)
      fun p => Description.contributedTexts d p fun _ => true := by
  refine Parts.readsBack (isSound_contributedParts hfine h) ?_ ?_ structName
  · have hduty : ∀ k, Description.contributed d .processing k ≠ [] →
        ∃ duty ∈ duties, duty.kinds.contains k = true :=
      fun k => Description.exists_duty_of_contributed
    have hperm := (Description.blocks_perm hduty).map fragmentText
    rwa [List.map_flatMap] at hperm
  · exact Description.nodup_contributedTexts (Description.contributed_led hfine h .processing)

end Fine

/-- Whenever a header comes out, the fragments of every phase come out, and all of them can be read
back from its lines, if what is written in them and the name of the struct hold no line boundary. A
value that does not count as present stands for the description of nothing. -/
theorem source_readsBack (h : source d structName = .ok text)
    (hrendered : Description.RendersOneLine (d.orElse (.obj []))) (hname : OneLine structName) :
    ∃ fragments : Phase → List String,
      (∀ p : Phase, Description.phaseFragments (d.orElse (.obj [])) (.str p.name) .null =
        .ok (fragments p)) ∧
      (d.IsObject → ∀ p : Phase, Description.phaseFragments d (.str p.name) .null =
        .ok (fragments p)) ∧
      ReadsBack (splitLines text) fragments := by
  have hfine : ∀ p k, ¬Description.Stumbles (d.orElse (.obj [])) p k := fun p k hbad =>
    (source_failsIff d structName).of_ok text h ⟨p, k, hbad⟩
  have hfragments := Description.phaseFragments_eq_contributed hfine
  have htext := Except.ok.inj (h.symm.trans
    ((isOf_contributedParts hfine).source_eq structName))
  have hlines : splitLines text = (contributedParts (d.orElse (.obj []))).lines structName := by
    rw [htext]
    exact splitLines_intercalate_append
      (Parts.oneLine_lines (isSound_contributedParts hfine hrendered).inclusions hname)
  refine ⟨_, hfragments, ?_, ?_⟩
  · rintro ⟨fields, rfl⟩
    simpa only [orElse_obj] using hfragments
  · rw [hlines]
    exact readsBack_contributedParts hfine hrendered structName

/-- Nothing has been checked here: a label is a number, a switch has no pin, a display no settings,
and notes that are not written have two lines. -/
def uncheckedPanel : Value :=
  .obj [("notes", .str "two\nlines"),
    ("leds", .arr [.obj [("pin", .int 7), ("invert", .str "yes")]]),
    ("switches", .arr [.obj [("labels", .arr [.int 3, .str "gate"]), ("notes", .str "\n")],
      .obj [("pin", .arr [.int 1])]]),
    ("oled_displays", .arr [.obj [("driver", .str "SSD130x"), ("transport", .str "I2c")]])]

/-- The fragments of such a panel. -/
def uncheckedFragments : Phase → List String
  | .inclusion => ["#include \"dev/oled_ssd130x.h\""]
  | .declaration => [
    "// leds declaration\nLed leds[1];",
    "// oled_displays declaration\nOledDisplay<SSD130xI2cDriver> display;",
    "// switches declaration\nSwitch switches[2];\n" ++
      "Switch& 3 = switches[0];\nSwitch& gate = switches[0];"]
  | .initialization => [
    "// BEGIN - leds initialization\nleds[0].Init(seed.GetPin(7), true);\n" ++
      "// END - leds initialization",
    "// BEGIN - oled_displays initialization\n// Display 0\n" ++
      "OledDisplay<SSD130xI2cDriver>::Config display_config0;\n" ++
      "display_config0.driver_config.transport_config.i2c_address = ;\n" ++
      "display_config0.driver_config.transport_config.i2c_config.periph = " ++
      "I2CHandle::Config::Peripheral::;\n" ++
      "display_config0.driver_config.transport_config.i2c_config.speed = " ++
      "I2CHandle::Config::Speed::;\n" ++
      "display_config0.driver_config.transport_config.i2c_config.pin_config.sda = " ++
      "seed.GetPin();\n" ++
      "display_config0.driver_config.transport_config.i2c_config.pin_config.scl = " ++
      "seed.GetPin();\n" ++
      "display.Init(display_config0);\n// END - oled_displays initialization",
    "// BEGIN - switches initialization\n" ++
      "switches[0].Init(seed.GetPin(), seed.AudioCallbackRate(), " ++
      "Switch::Type::, Switch::Polarity::, Switch::Pull::);\n" ++
      "switches[1].Init(seed.GetPin([1]), seed.AudioCallbackRate(), " ++
      "Switch::Type::, Switch::Polarity::, Switch::Pull::);\n" ++
      "// END - switches initialization"]
  | .processing => [
    "// process leds\nleds[0].Update();",
    "// process switches\nswitches[0].Debounce();\nswitches[1].Debounce();"]

/-- They are read back from its header. -/
theorem source_readsBack_unchecked : ∃ text, source uncheckedPanel "Panel" = .ok text ∧
    Description.RendersOneLine (uncheckedPanel.orElse (.obj [])) ∧ OneLine "Panel" ∧
    (∀ p : Phase, Description.phaseFragments uncheckedPanel (.str p.name) .null =
      .ok (uncheckedFragments p)) ∧
    ReadsBack (splitLines text) uncheckedFragments := by
  have hfine : (source uncheckedPanel "Panel").isOk = true := by decide +kernel
  obtain ⟨text, htext⟩ : ∃ text, source uncheckedPanel "Panel" = .ok text := by
    cases hsource : source uncheckedPanel "Panel" with
    | error fault => simp [hsource, Except.isOk, Except.toBool] at hfine
    | ok text => exact ⟨text, rfl⟩
  have hbanks : ∀ k : Kind, ∀ b ∈ k.bank?, ∀ e ∈ Description.gathered uncheckedPanel k,
      (∀ label ∈ (e.field "labels").contents, OneLine label.text) ∧
        ∀ key ∈ b.writtenKeys, OneLine (fieldOf e key) := by decide +kernel
  have hdisplays : ∀ e ∈ Description.gathered uncheckedPanel .oledDisplay,
      (∀ key ∈ Display.driverKeys, OneLine (fieldOf e key)) ∧
        (∀ key ∈ ["pin_dc", "pin_reset"],
          OneLine (fieldOf (Display.settingsIn e "4_wire_spi_config") key)) ∧
        ∀ key ∈ ["address", "peripheral", "speed", "pin_sda", "pin_scl"],
          OneLine (fieldOf (Display.settingsIn e "i2c_config") key) := by decide +kernel
  have hrendered : Description.RendersOneLine (uncheckedPanel.orElse (.obj [])) := by
    intro k
    refine ⟨fun b hb => ?_, ?_⟩
    · exact ⟨fun e he => (hbanks k b hb e he).1, fun e he => (hbanks k b hb e he).2⟩
    · rintro rfl e he
      obtain ⟨hdriver, hserial, hbus⟩ := hdisplays e he
      exact ⟨hdriver, fun _ => hserial, fun _ => hbus⟩
  have heval : ∀ p : Phase, Description.phaseFragments uncheckedPanel (.str p.name) .null =
      .ok (uncheckedFragments p) := by
    intro p
    cases p <;> decide +kernel
  obtain ⟨fragments, -, hfragments, hreads⟩ := source_readsBack htext hrendered (by decide)
  obtain rfl : uncheckedFragments = fragments := funext fun p =>
    Except.ok.inj ((heval p).symm.trans (hfragments ⟨_, rfl⟩ p))
  exact ⟨text, htext, hrendered, by decide, heval, hreads⟩

end Header

end ControlSurface
