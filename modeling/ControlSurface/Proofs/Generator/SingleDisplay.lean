import ControlSurface.Proofs.Generator.Slots
import ControlSurface.Proofs.Members

/-!
# Lines about single displays

A display is declared, configured and brought up under names that hold its index. So the lines about
one display are told from those about all others, whatever the displays are.
-/

namespace ControlSurface

open Text

namespace Display

variable {e : Value} {entries : List Value} {driver word line : String} {i j : ℕ}

/-! ### Names -/

/-- The variable that holds the configuration of a display. -/
def configName (i : ℕ) : String := "display_config" ++ toString i

/-- What a line opens with that sets a part of the configuration. -/
def settingWord (i : ℕ) : String := configName i ++ "."

/-- What the line opens with that brings up a display. -/
def initWord (i : ℕ) : String := numbered "display" i ++ ".Init("

/-- What the statements about a display open with, the declaration of its configuration left
aside. -/
def statementWords (i : ℕ) : List String := [settingWord i, initWord i]

/-- How the declaration of the configuration of a display ends. -/
def configEnd (i : ℕ) : String := ">::Config " ++ configName i ++ ";"

/-- The line that declares the configuration of a display. -/
def configLine (driver : String) (i : ℕ) : String := "OledDisplay<" ++ driver ++ configEnd i

/-- The digits in the name of a display. -/
def digitsOf (i : ℕ) : List Char := if i = 0 then [] else (toString i).toList

lemma toList_numbered (i : ℕ) :
    (numbered "display" i).toList = "display".toList ++ digitsOf i := by
  rw [numbered, digitsOf]
  split_ifs
  · rw [List.append_nil]
  · exact String.toList_append

lemma isDigit_of_mem_digitsOf : ∀ c ∈ digitsOf i, c.isDigit = true := by
  intro c hc
  rw [digitsOf] at hc
  split_ifs at hc
  · exact absurd hc List.not_mem_nil
  · exact isDigit_of_mem_toString hc

lemma digitsOf_injective : Function.Injective digitsOf := by
  intro i j h
  refine numbered_injective "display" (String.toList_injective ?_)
  rw [toList_numbered, toList_numbered, h]

lemma noDigitAhead_of_head? {s : List Char} {c : Char} (h : s.head? = some c)
    (hc : c.isDigit = false) : NoDigitAhead s := by
  intro c' hc'
  obtain rfl := Option.some_inj.1 (h.symm.trans hc')
  exact hc

/-- The words about a display do not agree with those about another one. -/
lemma agree_settingWord (h : i ≠ j) : agree (settingWord i) (settingWord j) = false := by
  refine agree_eq_false fun u v heq => h ?_
  simp only [settingWord, configName, String.toList_append, List.append_assoc] at heq
  exact (number_append_inj (noDigitAhead_of_head? (c := '.') rfl (by decide))
    (noDigitAhead_of_head? (c := '.') rfl (by decide)) (List.append_cancel_left heq)).1

lemma agree_initWord (h : i ≠ j) : agree (initWord i) (initWord j) = false := by
  refine agree_eq_false fun u v heq => h ?_
  simp only [initWord, String.toList_append, toList_numbered, List.append_assoc] at heq
  exact digitsOf_injective (append_inj_of_isDigit isDigit_of_mem_digitsOf isDigit_of_mem_digitsOf
    (noDigitAhead_of_head? (c := '.') rfl (by decide))
    (noDigitAhead_of_head? (c := '.') rfl (by decide)) (List.append_cancel_left heq)).1

/-- A configuration is not named like a display. -/
lemma agree_settingWord_initWord (i j : ℕ) : agree (settingWord i) (initWord j) = false := by
  refine agree_eq_false fun u v heq => ?_
  have hsplit : "display_config".toList = "display".toList ++ "_config".toList := rfl
  simp only [settingWord, configName, initWord, String.toList_append, toList_numbered, hsplit,
    List.append_assoc] at heq
  have hnone : ∀ c ∈ ([] : List Char), c.isDigit = true := fun _ hc => absurd hc List.not_mem_nil
  have hrest := (append_inj_of_isDigit hnone isDigit_of_mem_digitsOf
    (noDigitAhead_of_head? (c := '_') rfl (by decide))
    (noDigitAhead_of_head? (c := '.') rfl (by decide)) (List.append_cancel_left heq)).2
  have hhead : some '_' = some '.' := congrArg List.head? hrest
  exact absurd hhead (by decide)

lemma leads_settingWord (i : ℕ) : Leads "display" (settingWord i) :=
  ((leads_append "display" "_config").append _).append _

lemma leads_initWord (i : ℕ) : Leads "display" (initWord i) := (leads_name i).append _

lemma leads_statementWords : ∀ word ∈ statementWords i, Leads "display" word := by
  intro word hword
  rcases List.mem_cons.1 hword with rfl | hword
  · exact leads_settingWord i
  · rw [List.mem_singleton.1 hword]
    exact leads_initWord i

lemma agree_statementWords (h : i ≠ j) :
    ∀ word ∈ statementWords i, ∀ lead ∈ statementWords j, agree word lead = false := by
  simp only [statementWords, List.forall_mem_cons, List.not_mem_nil, false_imp_iff, implies_true,
    and_true]
  refine ⟨⟨agree_settingWord h, agree_settingWord_initWord i j⟩, ?_, agree_initWord h⟩
  rw [agree_comm]
  exact agree_settingWord_initWord j i

/-! ### Lines about one display -/

lemma bringUpLinesOf_eq (e : Value) (driver : String) (i : ℕ) : bringUpLinesOf e driver i =
    ("// Display " ++ toString i) :: configLine driver i :: transportLinesOf (configName i) e ++
      [initWord i ++ configName i ++ ");"] := by
  have hconfig : configLine driver i =
      "OledDisplay<" ++ driver ++ ">::Config " ++ configName i ++ ";" := by
    simp only [configLine, configEnd, String.append_assoc]
  rw [hconfig]
  rfl

lemma leads_configLine (driver : String) (i : ℕ) : Leads "OledDisplay<" (configLine driver i) :=
  (leads_append _ _).append _

/-- The settings of a transport are parts of the configuration. -/
lemma leads_of_mem_transportLinesOf (hline : line ∈ transportLinesOf (configName i) e) :
    Leads (settingWord i) line := by
  have htarget : Leads (settingWord i) (configName i ++ ".driver_config.transport_config") := by
    have hsplit : ".driver_config.transport_config" = "." ++ "driver_config.transport_config" := rfl
    rw [hsplit, ← String.append_assoc]
    exact leads_append _ _
  have hassigns (place value : String) : Leads (settingWord i)
      (configName i ++ ".driver_config.transport_config" ++ place ++ value ++ ";") :=
    ((htarget.append _).append _).append _
  rw [transportLinesOf] at hline
  split at hline
  · simp only [spiLinesOf, List.mem_cons, List.not_mem_nil, or_false] at hline
    rcases hline with rfl | rfl <;> exact hassigns _ _
  · simp only [i2cLinesOf, List.mem_cons, List.not_mem_nil, or_false] at hline
    rcases hline with rfl | rfl | rfl | rfl | rfl <;> exact hassigns _ _
  · exact absurd hline List.not_mem_nil

/-- How the lines about a display open. -/
lemma leads_of_mem_bringUpLinesOf (hline : line ∈ bringUpLinesOf e driver i) :
    line = configLine driver i ∨ ∃ lead ∈ "// " :: statementWords i, Leads lead line := by
  simp only [bringUpLinesOf_eq, List.mem_append, List.mem_cons, List.not_mem_nil, or_false] at hline
  rcases hline with (rfl | rfl | hline) | rfl
  · exact .inr ⟨"// ", List.mem_cons_self .., (leads_append "// " "Display ").append _⟩
  · exact .inl rfl
  · exact .inr ⟨settingWord i, by simp [statementWords], leads_of_mem_transportLinesOf hline⟩
  · exact .inr ⟨initWord i, by simp [statementWords], (leads_append _ _).append _⟩

lemma filter_bringUpLinesOf_of_ne (h : i ≠ j) (hword : word ∈ statementWords i) :
    (bringUpLinesOf e driver j).filter (opens word) = [] := by
  have hlead := leads_statementWords word hword
  refine List.filter_eq_nil_iff.2 fun line hline => Bool.eq_false_iff.1 ?_
  rcases leads_of_mem_bringUpLinesOf hline with rfl | ⟨lead, hmem, hleads⟩
  · exact (leads_configLine driver j).opens_eq_false (by decide)
      (hlead.agree_eq_false (by decide))
  · rcases List.mem_cons.1 hmem with rfl | hmem
    · exact hleads.opens_eq_false (by decide) (hlead.agree_eq_false (by decide))
    · exact hleads.opens_eq_false ((leads_statementWords lead hmem).isFlush (by decide))
        (agree_statementWords h word hword lead hmem)

lemma filter_bringUpLinesOf_config (e : Value) (driver : String) (i : ℕ) :
    (bringUpLinesOf e driver i).filter (opens "OledDisplay<") = [configLine driver i] := by
  have hother (lead : String) (hlead : lead ∈ "// " :: statementWords i) {line : String}
      (hline : Leads lead line) : opens "OledDisplay<" line = false := by
    rcases List.mem_cons.1 hlead with rfl | hlead
    · exact hline.opens_eq_false (by decide) (by decide)
    · have hdisplay := leads_statementWords lead hlead
      refine hline.opens_eq_false (hdisplay.isFlush (by decide)) ?_
      rw [agree_comm]
      exact hdisplay.agree_eq_false (by decide)
  have hcomment : opens "OledDisplay<" ("// Display " ++ toString i) = false :=
    hother "// " (List.mem_cons_self ..) ((leads_append "// " "Display ").append _)
  have htransport : (transportLinesOf (configName i) e).filter (opens "OledDisplay<") = [] :=
    List.filter_eq_nil_iff.2 fun line hline => Bool.eq_false_iff.1
      (hother (settingWord i) (by simp [statementWords]) (leads_of_mem_transportLinesOf hline))
  have hinit := hother (initWord i) (by simp [statementWords])
    ((leads_append (initWord i) (configName i)).append ");")
  rw [bringUpLinesOf_eq, List.filter_append, filter_opens_cons_of_eq_false hcomment,
    filter_opens_cons ((leads_configLine driver i).opens (by decide)), htransport,
    filter_opens_cons_of_eq_false hinit]
  rfl

/-- The declaration of a configuration names the display that it is for. -/
lemma closes_configLine (driver : String) (i j : ℕ) :
    closes (configEnd i) (configLine driver j) = decide (j = i) := by
  have hbehind (s : List Char) : NoDigitBehind (s ++ ">::Config display_config".toList) := by
    intro c hc
    rw [List.getLast?_append] at hc
    obtain rfl : 'g' = c := Option.some_inj.1 hc
    rfl
  have hchars (i : ℕ) : (configEnd i).toList =
      ">::Config display_config".toList ++ (toString i).toList ++ [';'] := by
    have hsplit : ">::Config display_config".toList =
        ">::Config ".toList ++ "display_config".toList := rfl
    simp only [configEnd, configName, String.toList_append, hsplit, List.append_assoc]
    rfl
  rw [closes_of_isFlush ((leads_configLine driver j).isFlush (by decide)), Bool.eq_iff_iff,
    List.isSuffixOf_iff_suffix, decide_eq_true_iff]
  constructor
  · rintro ⟨front, hfront⟩
    rw [configLine, String.toList_append, hchars, hchars] at hfront
    simp only [← List.append_assoc] at hfront
    exact (append_number_inj (hbehind _) (hbehind _) (List.append_cancel_right hfront)).2.symm
  · rintro rfl
    rw [configLine, String.toList_append]
    exact List.suffix_append _ _

/-! ### All displays -/

lemma bringUpBlock_eq (entries : List Value) : bringUpBlock entries = bracketed "oled_displays"
    (entries.zipIdx.flatMap fun p => bringUpLinesOf p.1 (driverOf p.1) p.2) := by
  have hpairs : entries.zip (entries.map driverOf) = entries.map fun e => (e, driverOf e) := by
    have hzip := List.zip_map' (f := id) (g := driverOf) (l := entries)
    rwa [List.map_id] at hzip
  rw [bringUpBlock, hpairs, List.zipIdx_map, List.flatMap_map]
  rfl

/-- The lines that bring up the display with an index, none if there is no such display. -/
def linesAt (entries : List Value) (i : ℕ) : List String :=
  (entries[i]?.map fun e => bringUpLinesOf e (driverOf e) i).getD []

/-- What does not come from the entry with an index comes to nothing. -/
lemma flatMap_zipIdx_eq {α β : Type} {f : α × ℕ → List β} (l : List α) (i : ℕ)
    (h : ∀ p : α × ℕ, p.2 ≠ i → f p = []) :
    l.zipIdx.flatMap f = (l[i]?.map fun a => f (a, i)).getD [] := by
  have hindex := Bank.filter_zipIdx_eq l 0 i
  rw [Nat.zero_add] at hindex
  rw [← flatMap_filter_of_eq_nil (p := fun p => decide (p.2 = i)) l.zipIdx
    fun p hp => h p (of_decide_eq_false hp), hindex]
  cases l[i]? with
  | none => rfl
  | some a => exact List.flatMap_singleton f (a, i)

/-- A statement about a display is found among the lines that bring it up. -/
theorem filter_bringUpBlock (entries : List Value) (hword : word ∈ statementWords i) :
    (bringUpBlock entries).filter (opens word) = (linesAt entries i).filter (opens word) := by
  have hcomment : agree word "// " = false :=
    (leads_statementWords word hword).agree_eq_false (by decide)
  rw [bringUpBlock_eq, filter_bracketed hcomment, List.filter_flatMap, flatMap_zipIdx_eq entries i,
    linesAt]
  · cases entries[i]? <;> rfl
  · intro p hp
    exact filter_bringUpLinesOf_of_ne (Ne.symm hp) hword

/-- Each display has one configuration. -/
theorem filter_bringUpBlock_config (entries : List Value) :
    (bringUpBlock entries).filter (opens "OledDisplay<") =
      entries.zipIdx.map fun p => configLine (driverOf p.1) p.2 := by
  rw [bringUpBlock_eq, filter_bracketed (by decide), List.filter_flatMap, List.map_eq_flatMap]
  exact List.flatMap_congr fun p _ => filter_bringUpLinesOf_config _ _ _

/-- The configuration of a display is the only one that ends in its name. -/
theorem filter_closes_configLine (entries : List Value) (i : ℕ) :
    (entries.zipIdx.map fun p => configLine (driverOf p.1) p.2).filter (closes (configEnd i)) =
      (entries[i]?.map fun e => configLine (driverOf e) i).toList := by
  have hindex := Bank.filter_zipIdx_eq entries 0 i
  rw [Nat.zero_add] at hindex
  rw [List.filter_map]
  simp only [Function.comp_def, closes_configLine, hindex]
  cases entries[i]? <;> rfl

/-- The lines about a display stand together. -/
lemma linesAt_isInfix (entries : List Value) (i : ℕ) :
    linesAt entries i <:+: bringUpBlock entries := by
  rw [linesAt]
  cases hentry : entries[i]? with
  | none => exact List.nil_prefix.isInfix
  | some e =>
    have hmem : (e, i) ∈ entries.zipIdx := List.mem_zipIdx_iff_getElem?.2 hentry
    have hblock : bringUpLinesOf e (driverOf e) i ∈
        entries.zipIdx.map fun p => bringUpLinesOf p.1 (driverOf p.1) p.2 :=
      List.mem_map.2 ⟨_, hmem, rfl⟩
    rw [bringUpBlock_eq]
    exact (List.infix_of_mem_flatten hblock).trans (infix_bracketed _ _)

/-! ### Declarations -/

/-- Each display is declared once, with the driver that its configuration has. -/
theorem filter_declarationLines (entries : List Value) :
    (declarationLines entries).filter (opens "OledDisplay<") =
      entries.zipIdx.map fun p => declarationLine (driverOf p.1) (numbered "display" p.2) := by
  have hlines : declarationLines entries = "// oled_displays declaration" ::
      entries.zipIdx.map fun p => declarationLine (driverOf p.1) (numbered "display" p.2) := by
    rw [declarationLines, List.zipWith_map, List.zipIdx_eq_zip_range', ← List.range_eq_range',
      List.map_zip_eq_zipWith]
    rfl
  have hleads : ∀ line ∈ entries.zipIdx.map fun p =>
      declarationLine (driverOf p.1) (numbered "display" p.2), Leads "OledDisplay<" line :=
    List.forall_mem_map.2 fun p _ => (((leads_append "OledDisplay<" _).append _).append _).append _
  rw [hlines, filter_opens_cons_of_eq_false (by decide), filter_opens_of_leads (by decide) hleads]

end Display

end ControlSurface
