import ControlSurface.Text.Lines
import Mathlib.Data.Nat.Notation

/-!
# Lines that are joined and cut

Lines that are joined by line feeds are found again when the text is cut, if no line holds a line
boundary.
-/

namespace ControlSurface.Text

/-- Whether characters hold no line boundary. -/
def Unbroken (s : List Char) : Prop := ∀ c ∈ s, isLineEnd c = false

lemma Unbroken.append {s t : List Char} (hs : Unbroken s) (ht : Unbroken t) :
    Unbroken (s ++ t) := by
  intro c hc
  rcases List.mem_append.1 hc with hc | hc
  · exact hs c hc
  · exact ht c hc

/-- Whether a text is one line. -/
def OneLine (s : String) : Prop := Unbroken s.toList

-- The characters of the text are gone through, not all characters there are.
instance (s : String) : Decidable (OneLine s) :=
  List.decidableBAll (fun c => isLineEnd c = false) s.toList

lemma OneLine.append {s t : String} (hs : OneLine s) (ht : OneLine t) : OneLine (s ++ t) := by
  rw [OneLine, String.toList_append]
  exact Unbroken.append hs ht

lemma oneLine_append_iff {s t : String} : OneLine (s ++ t) ↔ OneLine s ∧ OneLine t := by
  simp only [OneLine, Unbroken, String.toList_append, List.mem_append, or_imp, forall_and]

/-! ### Cutting -/

lemma cutLines_append {l : List Char} (hl : Unbroken l) (current : List Char) (done : List Line)
    (rest : List Char) :
    cutLines current done (l ++ rest) = cutLines (l.reverse ++ current) done rest := by
  induction l generalizing current with
  | nil => rfl
  | cons c l ih =>
    obtain ⟨hc, hl⟩ := List.forall_mem_cons.1 hl
    have hreturn : c ≠ '\r' := by
      rintro rfl
      exact absurd hc (by decide)
    rw [List.cons_append, cutLines, if_neg (by simp [hc]), ih hl, List.reverse_cons,
      List.append_assoc]
    · rfl
    · intro rest h
      exact absurd h hreturn

/-- The lines that joined lines are cut into. An empty last line is not found again. -/
def joinedLines : List (List Char) → List Line
  | [] => []
  | [l] => if l.isEmpty then [] else [⟨l, []⟩]
  | l :: l' :: rest => ⟨l, ['\n']⟩ :: joinedLines (l' :: rest)

lemma cutLines_intercalate {lines : List (List Char)} (h : ∀ l ∈ lines, Unbroken l)
    (done : List Line) :
    cutLines [] done (['\n'].intercalate lines) = done.reverse ++ joinedLines lines := by
  induction lines generalizing done with
  | nil => simp [cutLines, joinedLines]
  | cons l rest ih =>
    obtain ⟨hl, hrest⟩ := List.forall_mem_cons.1 h
    cases rest with
    | nil =>
      rw [List.intercalate_singleton, ← List.append_nil l, cutLines_append hl]
      cases l <;> simp [cutLines, joinedLines]
    | cons l' rest =>
      rw [List.intercalate_cons_cons, List.append_assoc, cutLines_append hl]
      have hfeed : cutLines (l.reverse ++ []) done (['\n'] ++ ['\n'].intercalate (l' :: rest)) =
          cutLines [] (⟨l, ['\n']⟩ :: done) (['\n'].intercalate (l' :: rest)) := by
        rw [List.singleton_append, cutLines]
        · simp [isLineEnd]
        · intro rest h
          exact absurd h (by decide)
      rw [hfeed, ih hrest]
      simp [joinedLines]

lemma linesOf_intercalate {lines : List (List Char)} (h : ∀ l ∈ lines, Unbroken l) :
    linesOf (['\n'].intercalate lines) = joinedLines lines :=
  cutLines_intercalate h []

lemma content_joinedLines {lines : List (List Char)} (h : ∀ l ∈ lines, l ≠ []) :
    (joinedLines lines).map Line.content = lines := by
  induction lines with
  | nil => rfl
  | cons l rest ih =>
    obtain ⟨hl, hrest⟩ := List.forall_mem_cons.1 h
    cases rest with
    | nil => simp [joinedLines, hl]
    | cons l' rest => rw [joinedLines, List.map_cons, ih hrest]

lemma content_joinedLines_append (lines : List (List Char)) :
    (joinedLines (lines ++ [[]])).map Line.content = lines := by
  induction lines with
  | nil => rfl
  | cons l rest ih =>
    cases rest with
    | nil => rfl
    | cons l' rest =>
      rw [List.cons_append, List.cons_append, joinedLines, List.map_cons]
      exact congrArg (l :: ·) ih

lemma splitLines_intercalate_eq {lines : List String} (h : ∀ l ∈ lines, OneLine l) :
    splitLines ("\n".intercalate lines) =
      ((joinedLines (lines.map String.toList)).map Line.content).map String.ofList := by
  have hunbroken : ∀ l ∈ lines.map String.toList, Unbroken l := by
    intro l hl
    obtain ⟨s, hs, rfl⟩ := List.mem_map.1 hl
    exact h s hs
  rw [splitLines, String.toList_intercalate, List.map_map, ← linesOf_intercalate hunbroken]
  rfl

lemma map_ofList_toList (lines : List String) :
    (lines.map String.toList).map String.ofList = lines := by
  rw [List.map_map]
  exact (List.map_congr_left fun l _ => String.ofList_toList).trans (List.map_id _)

/-- Joined lines that are not empty are found again. -/
theorem splitLines_intercalate {lines : List String} (h : ∀ l ∈ lines, OneLine l)
    (hne : ∀ l ∈ lines, l ≠ "") : splitLines ("\n".intercalate lines) = lines := by
  rw [splitLines_intercalate_eq h, content_joinedLines, map_ofList_toList]
  intro l hl
  obtain ⟨s, hs, rfl⟩ := List.mem_map.1 hl
  exact fun heq => hne s hs (String.toList_injective heq)

/-- So are lines each of which is ended by a line feed. -/
theorem splitLines_intercalate_append {lines : List String} (h : ∀ l ∈ lines, OneLine l) :
    splitLines ("\n".intercalate (lines ++ [""])) = lines := by
  rw [splitLines_intercalate_eq, List.map_append, List.map_singleton, String.toList_empty,
    content_joinedLines_append, map_ofList_toList]
  intro l hl
  rcases List.mem_append.1 hl with hl | hl
  · exact h l hl
  · rw [List.mem_singleton.1 hl]
    exact fun c hc => absurd hc List.not_mem_nil

/-! ### Lines with something on them -/

/-- Whether a text is a line with something on it. -/
structure Solid (s : String) : Prop where
  oneLine : OneLine s
  notBlank : ∃ c ∈ s.toList, isBlank c = false

lemma Solid.ne_empty {s : String} (h : Solid s) : s ≠ "" := by
  rintro rfl
  obtain ⟨c, hc, -⟩ := h.notBlank
  exact List.not_mem_nil hc

lemma Solid.not_isBlankText {s : String} (h : Solid s) : ¬isBlankText s = true := by
  obtain ⟨c, hc, hblank⟩ := h.notBlank
  intro hall
  rw [List.all_eq_true.1 hall c hc] at hblank
  cases hblank

end ControlSurface.Text
