import ControlSurface.Proofs.Text.Lines
import Mathlib.Tactic.SplitIfs

/-!
# Indented texts

Any text may be indented, whatever lines it has: cut into lines again, it has the lines of before,
each behind the indent or, if it is blank, as it is. What has to be seen for this is that a line
that ends in a carriage return is never followed by one that begins with a line feed.
-/

namespace ControlSurface.Text

/-- Whether characters end a line. -/
def IsEnding (ending : List Char) : Prop :=
  ending = ['\r', '\n'] ∨ ∃ c, isLineEnd c = true ∧ ending = [c]

/-- Whether lines are such as a text is cut into. -/
inductive WellCut : List Line → Prop
  | nil : WellCut []
  | last {content : List Char} (hcontent : Unbroken content) (hne : content ≠ []) :
    WellCut [⟨content, []⟩]
  | cons {l : Line} {rest : List Line} (hcontent : Unbroken l.content) (hending : IsEnding l.ending)
    (hseam : l.ending = ['\r'] → ∀ more, rest.flatMap Line.chars ≠ '\n' :: more)
    (hrest : WellCut rest) : WellCut (l :: rest)

lemma unbroken_nil : Unbroken [] := fun _ hc => absurd hc List.not_mem_nil

lemma Unbroken.cons {c : Char} {s : List Char} (hc : isLineEnd c = false) (h : Unbroken s) :
    Unbroken (c :: s) := List.forall_mem_cons.2 ⟨hc, h⟩

lemma Unbroken.reverse {s : List Char} (h : Unbroken s) : Unbroken s.reverse :=
  fun c hc => h c (List.mem_reverse.1 hc)

/-- What a text is cut into when some lines have been found already. -/
lemma exists_wellCut (current : List Char) (done : List Line) (s : List Char)
    (hcurrent : Unbroken current) :
    ∃ lines, cutLines current done s = done.reverse ++ lines ∧ WellCut lines ∧
      lines.flatMap Line.chars = current.reverse ++ s := by
  fun_induction cutLines current done s with
  | case1 current done =>
    by_cases hnil : current = []
    · exact ⟨[], by simp [hnil], .nil, by simp [hnil]⟩
    · refine ⟨[⟨current.reverse, []⟩], by simp [hnil], ?_, by simp [Line.chars]⟩
      exact .last hcurrent.reverse (List.reverse_ne_nil_iff.2 hnil)
  | case2 current done rest ih =>
    obtain ⟨lines, heq, hcut, hchars⟩ := ih unbroken_nil
    refine ⟨⟨current.reverse, ['\r', '\n']⟩ :: lines, by simp [heq], ?_,
      by simp [Line.chars, hchars]⟩
    exact .cons hcurrent.reverse (.inl rfl) (fun h => absurd h (by simp)) hcut
  | case3 current done c rest hreturn hc ih =>
    obtain ⟨lines, heq, hcut, hchars⟩ := ih unbroken_nil
    refine ⟨⟨current.reverse, [c]⟩ :: lines, by simp [heq], ?_, by simp [Line.chars, hchars]⟩
    refine .cons hcurrent.reverse (.inr ⟨c, hc, rfl⟩) (fun h more hmore => ?_) hcut
    exact hreturn more (List.singleton_inj.1 h) (hchars.symm.trans hmore)
  | case4 current done c rest hreturn hc ih =>
    obtain ⟨lines, heq, hcut, hchars⟩ := ih (hcurrent.cons (Bool.eq_false_iff.2 hc))
    exact ⟨lines, heq, hcut, by simp [hchars]⟩

lemma wellCut_linesOf (s : List Char) : WellCut (linesOf s) := by
  obtain ⟨lines, heq, hcut, -⟩ := exists_wellCut [] [] s unbroken_nil
  rw [linesOf, heq]
  exact hcut

/-- The end of a line is found unless a carriage return is followed by a line feed. -/
lemma cutLines_ending {ending : List Char} (h : IsEnding ending) (current : List Char)
    (done : List Line) {rest : List Char} (hseam : ending = ['\r'] → ∀ more, rest ≠ '\n' :: more) :
    cutLines current done (ending ++ rest) =
      cutLines [] (⟨current.reverse, ending⟩ :: done) rest := by
  rcases h with rfl | ⟨c, hc, rfl⟩
  · rfl
  · rw [List.singleton_append, cutLines, if_pos hc]
    rintro more rfl hrest
    exact hseam rfl more hrest

/-- Lines that are well cut are found again. -/
lemma WellCut.cutLines_eq {lines : List Line} (h : WellCut lines) (done : List Line) :
    cutLines [] done (lines.flatMap Line.chars) = done.reverse ++ lines := by
  induction h generalizing done with
  | nil => simp [cutLines]
  | last hcontent hne =>
    rw [List.flatMap_singleton, Line.chars, cutLines_append hcontent]
    simp [cutLines, hne]
  | cons hcontent hending hseam hrest ih =>
    rw [List.flatMap_cons, Line.chars, List.append_assoc, cutLines_append hcontent,
      cutLines_ending hending _ _ hseam, ih]
    simp

theorem WellCut.linesOf_eq {lines : List Line} (h : WellCut lines) :
    linesOf (lines.flatMap Line.chars) = lines := h.cutLines_eq []

/-- A text has one way to be well cut, and its lines are those. -/
theorem linesOf_eq_iff {s : List Char} {lines : List Line} :
    linesOf s = lines ↔ WellCut lines ∧ lines.flatMap Line.chars = s := by
  constructor
  · rintro rfl
    exact ⟨wellCut_linesOf s, flatMap_chars_linesOf s⟩
  · rintro ⟨hcut, rfl⟩
    exact hcut.linesOf_eq

/-! ### Indenting -/

/-- A line with an indent before it, or the line alone if it is blank. -/
def Line.shift (indent : List Char) (l : Line) : Line :=
  if l.chars.all isBlank then l else ⟨indent ++ l.content, l.ending⟩

lemma Line.chars_shift (indent : List Char) (l : Line) :
    (l.shift indent).chars = l.indented indent := by
  unfold shift indented
  split_ifs
  · rfl
  · exact List.append_assoc _ _ _

lemma Line.ending_shift (indent : List Char) (l : Line) : (l.shift indent).ending = l.ending := by
  unfold shift
  split_ifs <;> rfl

variable {indent : List Char}

lemma unbroken_shift (hindent : Unbroken indent) {l : Line} (h : Unbroken l.content) :
    Unbroken (l.shift indent).content := by
  unfold Line.shift
  split_ifs
  · exact h
  · exact hindent.append h

/-- An indent does not make a text begin with a line feed. -/
lemma exists_feed_of_shift (hindent : Unbroken indent) {lines : List Line} {more : List Char}
    (h : (lines.map (Line.shift indent)).flatMap Line.chars = '\n' :: more) :
    ∃ more, lines.flatMap Line.chars = '\n' :: more := by
  induction lines with
  | nil => exact absurd h.symm (List.cons_ne_nil _ _)
  | cons l rest ih =>
    rw [List.map_cons, List.flatMap_cons, Line.chars_shift, Line.indented] at h
    rw [List.flatMap_cons]
    split_ifs at h with hblank
    · cases hchars : l.chars with
      | nil =>
        rw [hchars] at h
        exact ih h
      | cons c chars =>
        rw [hchars] at h
        obtain rfl := (List.cons.inj h).1
        exact ⟨_, rfl⟩
    · cases indent with
      | nil =>
        cases hchars : l.chars with
        | nil => simp [hchars] at hblank
        | cons c chars =>
          rw [hchars] at h
          obtain rfl := (List.cons.inj h).1
          exact ⟨_, rfl⟩
      | cons c chars =>
        obtain rfl := (List.cons.inj h).1
        exact absurd (hindent _ (List.mem_cons_self ..)) (by decide)

/-- Lines that are well cut stay so behind an indent. -/
lemma WellCut.map_shift (hindent : Unbroken indent) {lines : List Line} (h : WellCut lines) :
    WellCut (lines.map (Line.shift indent)) := by
  induction h with
  | nil => exact .nil
  | @last content hcontent hne =>
    rw [List.map_singleton, Line.shift]
    split_ifs
    · exact .last hcontent hne
    · exact .last (hindent.append hcontent) fun h => hne (List.append_eq_nil_iff.1 h).2
  | @cons l rest hcontent hending hseam hrest ih =>
    rw [List.map_cons]
    refine .cons (unbroken_shift hindent hcontent) ?_ (fun hreturn more hmore => ?_) ih
    · rwa [Line.ending_shift]
    · obtain ⟨more', hmore'⟩ := exists_feed_of_shift hindent hmore
      rw [Line.ending_shift] at hreturn
      exact hseam hreturn more' hmore'

lemma WellCut.of_mem {lines : List Line} (h : WellCut lines) {l : Line} (hl : l ∈ lines) :
    Unbroken l.content ∧ ∀ c ∈ l.ending, isBlank c = true := by
  induction h with
  | nil => exact absurd hl List.not_mem_nil
  | last hcontent hne =>
    obtain rfl := List.mem_singleton.1 hl
    exact ⟨hcontent, fun c hc => absurd hc List.not_mem_nil⟩
  | cons hcontent hending hseam hrest ih =>
    rcases List.mem_cons.1 hl with rfl | hl
    · refine ⟨hcontent, fun c hc => ?_⟩
      rcases hending with hreturn | ⟨c', hc', hsingle⟩
      · rw [hreturn] at hc
        exact List.all_eq_true.1 (by decide : ['\r', '\n'].all isBlank = true) c hc
      · rw [hsingle, List.mem_singleton] at hc
        exact isBlank_of_isLineEnd (hc ▸ hc')
    · exact ih hl

/-- A line behind an indent, or the line alone if it is blank. -/
def indentLine (indent line : String) : String :=
  if isBlankText line then line else indent ++ line

lemma isBlankText_append (s t : String) :
    isBlankText (s ++ t) = (isBlankText s && isBlankText t) := by
  rw [isBlankText, String.toList_append, List.all_append]
  rfl

/-- An indent makes no line blank. -/
lemma isBlankText_indentLine (indent line : String) :
    isBlankText (indentLine indent line) = isBlankText line := by
  rw [indentLine]
  split_ifs with hblank
  · rfl
  · rw [isBlankText_append, Bool.eq_false_iff.2 hblank, Bool.and_false]

lemma ofList_content_shift (indent : String) {l : Line} (h : ∀ c ∈ l.ending, isBlank c = true) :
    String.ofList (l.shift indent.toList).content =
      indentLine indent (String.ofList l.content) := by
  have hblank : l.chars.all isBlank = isBlankText (String.ofList l.content) := by
    rw [Line.chars, List.all_append, List.all_eq_true.2 h, Bool.and_true, isBlankText,
      String.toList_ofList]
  rw [Line.shift, indentLine, hblank]
  split_ifs
  · rfl
  · rw [String.ofList_append, String.ofList_toList]

/-- An indented text is cut where the text itself is. -/
theorem linesOf_indentLines {indent : String} (hindent : OneLine indent) (s : String) :
    linesOf (indentLines indent s).toList =
      (linesOf s.toList).map (Line.shift indent.toList) := by
  rw [linesOf_eq_iff, indentLines, String.toList_ofList, List.flatMap_map]
  refine ⟨(wellCut_linesOf s.toList).map_shift hindent, ?_⟩
  exact congrArg (List.flatMap · _) (funext fun l => l.chars_shift indent.toList)

/-- Every line of a text gets the indent unless it is blank, whatever lines the text has. -/
theorem splitLines_indentLines_eq {indent : String} (hindent : OneLine indent) (s : String) :
    splitLines (indentLines indent s) = (splitLines s).map (indentLine indent) := by
  rw [splitLines, linesOf_indentLines hindent, splitLines, List.map_map, List.map_map]
  exact List.map_congr_left fun l hl =>
    ofList_content_shift indent ((wellCut_linesOf s.toList).of_mem hl).2

/-- If no line is blank then each of them gets the indent. -/
theorem splitLines_indentLines {indent : String} (hindent : OneLine indent) {lines : List String}
    (h : ∀ l ∈ lines, Solid l) :
    splitLines (indentLines indent ("\n".intercalate lines)) = lines.map (indent ++ ·) := by
  have hlines : splitLines ("\n".intercalate lines) = lines :=
    splitLines_intercalate (fun l hl => (h l hl).oneLine) fun l hl => (h l hl).ne_empty
  rw [splitLines_indentLines_eq hindent, hlines]
  exact List.map_congr_left fun l hl => if_neg (h l hl).not_isBlankText

/-- The lines of a text are one line each. -/
lemma oneLine_of_mem_splitLines {s line : String} (h : line ∈ splitLines s) : OneLine line := by
  obtain ⟨l, hl, rfl⟩ := List.mem_map.1 h
  rw [OneLine, String.toList_ofList]
  exact ((wellCut_linesOf s.toList).of_mem hl).1

end ControlSurface.Text
