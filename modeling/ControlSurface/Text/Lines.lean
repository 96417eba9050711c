import ControlSurface.Text.Blank

/-!
# Lines of a text

A text is cut at every line boundary of Unicode, a carriage return followed by a line feed being one
boundary. The last line may lack its ending; an empty rest after the last ending is no line.
-/

namespace ControlSurface.Text

/-- Whether a character ends a line. -/
def isLineEnd (c : Char) : Bool :=
  let n := c.toNat
  (0x0a ≤ n && n ≤ 0x0d) || (0x1c ≤ n && n ≤ 0x1e) || n == 0x85 || n == 0x2028 || n == 0x2029

/-- A line and the characters that end it. -/
structure Line where
  content : List Char
  ending : List Char
deriving DecidableEq, Repr

/-- The line with its ending. -/
def Line.chars (l : Line) : List Char := l.content ++ l.ending

/-- The lines of a text that continues a line begun with `current`, after those already `done`;
both are held in reverse. -/
def cutLines (current : List Char) (done : List Line) : List Char → List Line
  | [] => (if current.isEmpty then done else ⟨current.reverse, []⟩ :: done).reverse
  | '\r' :: '\n' :: rest => cutLines [] (⟨current.reverse, ['\r', '\n']⟩ :: done) rest
  | c :: rest =>
    if isLineEnd c then cutLines [] (⟨current.reverse, [c]⟩ :: done) rest
    else cutLines (c :: current) done rest

/-- The lines of a text. -/
def linesOf (s : List Char) : List Line := cutLines [] [] s

/-- The lines of a text, without their endings. -/
def splitLines (s : String) : List String :=
  (linesOf s.toList).map fun l => String.ofList l.content

/-- Every character that ends a line is blank. -/
theorem isBlank_of_isLineEnd {c : Char} (h : isLineEnd c = true) : isBlank c = true := by
  simp only [isLineEnd, isBlank, Bool.or_eq_true, Bool.and_eq_true, decide_eq_true_eq,
    beq_iff_eq] at h ⊢
  omega

theorem flatMap_chars_cutLines (current : List Char) (done : List Line) (s : List Char) :
    (cutLines current done s).flatMap Line.chars =
      done.reverse.flatMap Line.chars ++ current.reverse ++ s := by
  fun_induction cutLines current done s with
  | case1 current done => by_cases h : current = [] <;> simp [h, Line.chars]
  | case2 current done rest ih => simp [ih, Line.chars]
  | case3 current done c rest _ hc ih => simp [ih, Line.chars]
  | case4 current done c rest _ hc ih => simp [ih]

/-- Cutting a text into lines loses nothing. -/
theorem flatMap_chars_linesOf (s : List Char) : (linesOf s).flatMap Line.chars = s := by
  simp [linesOf, flatMap_chars_cutLines]

/-- A line behind an indent, or the line alone if it is blank. -/
def Line.indented (indent : List Char) (l : Line) : List Char :=
  if l.chars.all isBlank then l.chars else indent ++ l.chars

/-- Puts an indent before every line that is not blank. -/
def indentLines (indent s : String) : String :=
  String.ofList ((linesOf s.toList).flatMap (Line.indented indent.toList))

end ControlSurface.Text
