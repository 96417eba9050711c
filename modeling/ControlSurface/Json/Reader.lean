import ControlSurface.Json.Error
import ControlSurface.Keyed
import ControlSurface.Text.Ascii
import ControlSurface.Text.CodeUnit
import ControlSurface.Value

/-!
# Reading JSON

A text is read from its front. Every step takes the characters that are left and answers with fewer
of them, and a failure says how many were left, so that its place is known without counting along.

Beyond the standard, the three constants `NaN`, `Infinity` and `-Infinity` are values.
-/

namespace ControlSurface.Json

/-- What is left of a text after a part of it has been read. -/
abbrev Shorter (s : List Char) := { rest : List Char // rest.length < s.length }

/-- Why reading stopped: a flaw, with the number of characters left there, an integer of too many
digits, or a container that lies too deep in others. -/
inductive Stop where
  | flaw (flaw : Flaw) (left : Nat)
  | integerTooLong (digits : Nat)
  | tooNested (container : Container)

/-! ### Blanks and words -/

/-- Whether a character may stand between two tokens. -/
def isBlank (c : Char) : Bool := c = ' ' || c = '\t' || c = '\n' || c = '\r'

/-- The text from its first character that is not blank. -/
def skipBlanks (s : List Char) : List Char := s.dropWhile isBlank

theorem length_dropWhile_le (p : Char → Bool) (s : List Char) :
    (s.dropWhile p).length ≤ s.length :=
  (List.dropWhile_sublist p).length_le

theorem length_skipBlanks_le (s : List Char) : (skipBlanks s).length ≤ s.length :=
  length_dropWhile_le isBlank s

/-- The text after a word it begins with. -/
def afterWord? :
    (word s : List Char) → Option { rest : List Char // rest.length + word.length = s.length }
  | [], s => some ⟨s, by simp⟩
  | _ :: _, [] => none
  | w :: word, c :: s =>
    if w = c then (afterWord? word s).map fun r => ⟨r.1, by have := r.2; simp; omega⟩ else none

/-- The constants, each with its value. -/
def constants : List (List Char × Value) :=
  [("null".toList, .null), ("true".toList, .bool true), ("false".toList, .bool false),
    ("NaN".toList, .float .nan), ("Infinity".toList, .float (.infinite false)),
    ("-Infinity".toList, .float (.infinite true))]

/-- Reads one of the constants. -/
def readConstant? (s : List Char) : Option (Value × Shorter s) :=
  constants.findSome? fun (word, value) =>
    if h : 0 < word.length then
      (afterWord? word s).map fun r => (value, ⟨r.1, by have := r.2; omega⟩)
    else none

/-! ### Numbers -/

/-- A number as it is written. -/
structure Numeral where
  negative : Bool
  whole : List Char
  fraction : Option (List Char)
  exponent : Option Int

/-- The value of a numeral: an integer unless it has a fraction or an exponent. -/
def Numeral.value (n : Numeral) : Except Stop Value :=
  match n.fraction, n.exponent with
  | none, none =>
    if maxDigits < n.whole.length then .error (.integerTooLong n.whole.length)
    else .ok (.int (if n.negative then -(Ascii.number n.whole : Int) else Ascii.number n.whole))
  | _, _ =>
    let fraction := n.fraction.getD []
    .ok (.float (Binary64.ofDecimal n.negative (Ascii.number (n.whole ++ fraction))
      (n.exponent.getD 0 - fraction.length)))

/-- Splits off a run of digits, which must not be empty. -/
def readDigits? (s : List Char) : Option (List Char × Shorter s) :=
  match s with
  | [] => none
  | c :: rest =>
    if Ascii.isDigit c then
      some (c :: rest.takeWhile Ascii.isDigit,
        ⟨rest.dropWhile Ascii.isDigit, Nat.lt_succ_of_le (length_dropWhile_le _ rest)⟩)
    else none

/-- The whole part of a number: a nought alone or digits that begin with another one. -/
def readWhole? (s : List Char) : Option (List Char × Shorter s) :=
  match s with
  | '0' :: rest => some (['0'], ⟨rest, by simp⟩)
  | other => readDigits? other

/-- The fraction that may follow. -/
def readFraction (s : List Char) :
    Option (List Char) × { rest : List Char // rest.length ≤ s.length } :=
  match s with
  | '.' :: tail =>
    match readDigits? tail with
    | some (digits, rest) => (some digits, ⟨rest.1, by have := rest.2; simp; omega⟩)
    | none => (none, ⟨'.' :: tail, Nat.le_refl _⟩)
  | other => (none, ⟨other, Nat.le_refl _⟩)

/-- The sign that an exponent may have: whether it is negative, and what follows. -/
def readSign (s : List Char) : Bool × { rest : List Char // rest.length ≤ s.length } :=
  match s with
  | '-' :: tail => (true, ⟨tail, by simp⟩)
  | '+' :: tail => (false, ⟨tail, by simp⟩)
  | other => (false, ⟨other, Nat.le_refl _⟩)

/-- The exponent that may follow. -/
def readExponent (s : List Char) : Option Int × { rest : List Char // rest.length ≤ s.length } :=
  match s with
  | [] => (none, ⟨[], by simp⟩)
  | c :: tail =>
    if c = 'e' ∨ c = 'E' then
      let (negative, ⟨unsigned, hu⟩) := readSign tail
      match readDigits? unsigned with
      | some (digits, rest) =>
        (some (if negative then -(Ascii.number digits : Int) else Ascii.number digits),
          ⟨rest.1, by have := rest.2; simp; omega⟩)
      | none => (none, ⟨c :: tail, by simp⟩)
    else (none, ⟨c :: tail, by simp⟩)

/-- Reads the longest number that a text begins with. -/
def readNumeral? (s : List Char) : Option (Numeral × Shorter s) :=
  let (negative, ⟨unsigned, hu⟩) : Bool × { rest : List Char // rest.length ≤ s.length } :=
    match s with
    | '-' :: tail => (true, ⟨tail, by simp⟩)
    | other => (false, ⟨other, Nat.le_refl _⟩)
  match readWhole? unsigned with
  | none => none
  | some (whole, ⟨afterWhole, hw⟩) =>
    let (fraction, ⟨afterFraction, hf⟩) := readFraction afterWhole
    let (exponent, ⟨rest, hr⟩) := readExponent afterFraction
    some ({ negative, whole, fraction, exponent }, ⟨rest, by omega⟩)

/-! ### Strings -/

/-- The code unit of four hexadecimal digits. The text must go on after them. -/
def readUnit? (s : List Char) : Option (Nat × Shorter s) :=
  match s with
  | a :: b :: c :: d :: e :: rest => do
    let a ← Ascii.hexDigit? a
    let b ← Ascii.hexDigit? b
    let c ← Ascii.hexDigit? c
    let d ← Ascii.hexDigit? d
    some (((a * 16 + b) * 16 + c) * 16 + d, ⟨e :: rest, by simp⟩)
  | _ => none

/-- Reads the code units of an escape, of which the backslash and the letter `u` have been read. Two
halves of a pair make one character. A flaw is told at the letter. -/
def readUnits (s : List Char) : Except Stop (Char × Shorter s) :=
  match readUnit? s with
  | none => .error (.flaw .badUnicodeEscape (s.length + 1))
  | some (high, rest) =>
    if Text.isHighHalf high then
      match hs : rest.1 with
      | '\\' :: 'u' :: tail =>
        match readUnit? tail with
        | none => .error (.flaw .badUnicodeEscape (tail.length + 1))
        | some (low, after) =>
          if Text.isLowHalf low then
            .ok (Text.ofPair high low,
              ⟨after.1, by have := rest.2; have := after.2; simp [hs] at *; omega⟩)
          else .ok (Text.ofUnit high, rest)
      | _ => .ok (Text.ofUnit high, rest)
    else .ok (Text.ofUnit high, rest)

/-- The characters that an escape of one letter stands for. -/
def simpleEscapes : List (Char × Char) :=
  [('\x22', '\x22'), ('\\', '\\'), ('/', '/'), ('b', '\x08'), ('f', '\x0c'), ('n', '\n'),
    ('r', '\r'), ('t', '\t')]

/-- Reads a string up to its closing quote; `opening` is the text from its opening quote on, and
`done` are the characters read so far, last one first. -/
def readString (opening : List Char) (done s : List Char) (h : s.length < opening.length) :
    Except Stop (String × Shorter opening) :=
  match s with
  | [] => .error (.flaw .unterminatedString opening.length)
  | c :: rest =>
    if c = '\x22' then .ok (String.ofList done.reverse, ⟨rest, Nat.lt_of_succ_lt h⟩)
    else if c = '\\' then
      match rest with
      | [] => .error (.flaw .unterminatedString opening.length)
      | letter :: rest =>
        if letter = 'u' then
          match readUnits rest with
          | .error stop => .error stop
          | .ok (meant, ⟨after, ha⟩) =>
            readString opening (meant :: done) after
              (Nat.lt_trans ha (Nat.lt_of_succ_lt (Nat.lt_of_succ_lt h)))
        else
          match simpleEscapes.lookup letter with
          | none => .error (.flaw .badEscape (rest.length + 2))
          | some meant =>
            readString opening (meant :: done) rest (Nat.lt_of_succ_lt (Nat.lt_of_succ_lt h))
    else if c.toNat < 0x20 then .error (.flaw .controlCharacter (rest.length + 1))
    else readString opening (c :: done) rest (Nat.lt_of_succ_lt h)
termination_by s.length
decreasing_by
  all_goals
    simp only [List.length_cons]
    omega

/-! ### Values -/

/-- Reads the name of a field and the colon after it. -/
def readName (s : List Char) : Except Stop (String × Shorter s) :=
  match s with
  | '\x22' :: tail =>
    match readString ('\x22' :: tail) [] tail (by simp) with
    | .error stop => .error stop
    | .ok (name, ⟨rest, hr⟩) =>
      match hs : skipBlanks rest with
      | ':' :: after =>
        .ok (name, ⟨skipBlanks after, by
          have := length_skipBlanks_le rest
          have := length_skipBlanks_le after
          simp [hs] at *; omega⟩)
      | other => .error (.flaw .noColon other.length)
  | other => .error (.flaw .noPropertyName other.length)

/-- Reads a value that is neither a list nor an object. -/
def readScalar (s : List Char) : Except Stop (Value × Shorter s) :=
  match s with
  | '\x22' :: tail =>
    match readString ('\x22' :: tail) [] tail (by simp) with
    | .error stop => .error stop
    | .ok (text, rest) => .ok (.str text, rest)
  | other =>
    match readConstant? other with
    | some found => .ok found
    | none =>
      match readNumeral? other with
      | none => .error (.flaw .noValue other.length)
      | some (numeral, rest) =>
        match numeral.value with
        | .error stop => .error stop
        | .ok value => .ok (value, rest)

mutual

/-- Reads the value that a text begins with, in which at most `room` containers may lie in one
another. -/
def readValue (room : Nat) (s : List Char) : Except Stop (Value × Shorter s) :=
  match s with
  | '[' :: tail =>
    if room = 0 then .error (.tooNested .list)
    else match hs : skipBlanks tail with
    | ']' :: rest => .ok (.arr [], ⟨rest, by
        have := length_skipBlanks_le tail
        simp [hs] at *; omega⟩)
    | first => readItems (room - 1) ('[' :: tail) [] first (by
        have := length_skipBlanks_le tail
        rw [hs] at this; simp; omega)
  | '\x7b' :: tail =>
    if room = 0 then .error (.tooNested .object)
    else match hs : skipBlanks tail with
    | '\x7d' :: rest => .ok (.obj [], ⟨rest, by
        have := length_skipBlanks_le tail
        simp [hs] at *; omega⟩)
    | first => readFields (room - 1) ('\x7b' :: tail) [] first (by
        have := length_skipBlanks_le tail
        rw [hs] at this; simp; omega)
  | other => readScalar other
termination_by 2 * s.length
decreasing_by
  all_goals
    have := length_skipBlanks_le tail
    rw [hs] at this
    simp
    omega

/-- Reads the items of a list from the next one on; `done` are those before it, last one first. -/
def readItems (room : Nat) (opening : List Char) (done : List Value) (s : List Char)
    (h : s.length < opening.length) : Except Stop (Value × Shorter opening) :=
  match readValue room s with
  | .error stop => .error stop
  | .ok (value, ⟨rest, hr⟩) =>
    match hs : skipBlanks rest with
    | ']' :: after => .ok (.arr (value :: done).reverse, ⟨after, by
        have := length_skipBlanks_le rest
        simp [hs] at *; omega⟩)
    | ',' :: after => readItems room opening (value :: done) (skipBlanks after) (by
        have := length_skipBlanks_le rest
        have := length_skipBlanks_le after
        simp [hs] at *; omega)
    | other => .error (.flaw .noComma other.length)
termination_by 2 * s.length + 1
decreasing_by
  · omega
  · have h₁ := length_skipBlanks_le rest
    have h₂ := length_skipBlanks_le after
    simp [hs] at *
    omega

/-- Reads the fields of an object from the next one on; `done` are those before it, last one
first. -/
def readFields (room : Nat) (opening : List Char) (done : List (String × Value))
    (s : List Char) (h : s.length < opening.length) : Except Stop (Value × Shorter opening) :=
  match readName s with
  | .error stop => .error stop
  | .ok (name, ⟨start, hn⟩) =>
    match readValue room start with
    | .error stop => .error stop
    | .ok (value, ⟨rest, hr⟩) =>
      match hs : skipBlanks rest with
      | '\x7d' :: after =>
        .ok (.obj (Keyed.ofAssignments ((name, value) :: done).reverse), ⟨after, by
          have := length_skipBlanks_le rest
          simp [hs] at *; omega⟩)
      | ',' :: after => readFields room opening ((name, value) :: done) (skipBlanks after) (by
          have := length_skipBlanks_le rest
          have := length_skipBlanks_le after
          simp [hs] at *; omega)
      | other => .error (.flaw .noComma other.length)
termination_by 2 * s.length + 1
decreasing_by
  · omega
  · have h₁ := length_skipBlanks_le rest
    have h₂ := length_skipBlanks_le after
    simp [hs] at *
    omega

end

/-! ### Texts -/

/-- Reads a text that holds one value and nothing else, in which at most `room` containers may lie
in one another. -/
def readAll (room : Nat) (s : List Char) : Except Stop Value :=
  match readValue room (skipBlanks s) with
  | .error stop => .error stop
  | .ok (value, ⟨rest, _⟩) =>
    match skipBlanks rest with
    | [] => .ok value
    | extra => .error (.flaw .extraData extra.length)

/-- The error of a text whose reading stopped. -/
def Stop.error (s : List Char) : Stop → Error
  | .flaw cause left => .malformed cause (Place.after s (s.length - left))
  | .integerTooLong digits => .integerTooLong digits
  | .tooNested container => .tooNested container

/-- Reads a JSON text that begins with no byte order mark, in which at most `room` containers may
lie in one another. -/
def readUnmarked (room : Nat) (text : String) : Except Error Value :=
  (readAll room text.toList).mapError (Stop.error text.toList)

/-- Reads a JSON text. A byte order mark at its beginning is an error. -/
def read (text : String) : Except Error Value :=
  if text.toList.head? = some '\ufeff' then
    .error (.malformed .byteOrderMark (Place.after text.toList 0))
  else readUnmarked maxNesting text

end ControlSurface.Json
