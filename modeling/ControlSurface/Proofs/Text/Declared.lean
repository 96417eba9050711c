import ControlSurface.Proofs.Text.Opening

/-!
# Names in declarations

The name that a line of code declares, read off the line alone: the last word before the size of an
array, an initial value, the parameters of a routine or the end of the declaration. The type stands
before it, perhaps with an argument, which may be anything.
-/

namespace ControlSurface.Text

/-- Whether a character is one of a word. -/
def isWordChar (c : Char) : Bool := c.isAlphanum || c = '_'

/-- Whether a character is one of the words of a declaration, or stands between them. -/
def isDeclaratorChar (c : Char) : Bool := isWordChar c || c = ' ' || c = '&'

/-- What comes behind the argument of a type, if it has one. -/
def behindArgument : List Char → List Char
  | '<' :: rest => (rest.reverse.takeWhile fun c => c ≠ '>').reverse
  | rest => rest

/-- The last word of some characters, spaces behind it left aside. -/
def lastWord? (s : List Char) : Option String :=
  let word := ((s.reverse.dropWhile fun c => c = ' ').takeWhile isWordChar).reverse
  if word.isEmpty then none else some (String.ofList word)

/-- The name that some characters declare, if they are a declaration. The first word is that of a
type. -/
def nameIn? (s : List Char) : Option String :=
  let rest := behindArgument (s.dropWhile isWordChar)
  match rest.dropWhile isDeclaratorChar with
  | c :: _ =>
    if c ∈ ['[', '=', '(', ';'] then lastWord? (rest.takeWhile isDeclaratorChar) else none
  | [] => none

/-- Whether a text is a word. -/
def IsWord (s : String) : Prop := s ≠ "" ∧ ∀ c ∈ s.toList, isWordChar c = true

-- The characters of the text are gone through, not all characters there are.
instance (s : String) : Decidable (IsWord s) :=
  @instDecidableAnd _ _ inferInstance
    (List.decidableBAll (fun c => isWordChar c = true) s.toList)

lemma IsWord.append {s t : String} (hs : IsWord s) (ht : ∀ c ∈ t.toList, isWordChar c = true) :
    IsWord (s ++ t) := by
  refine ⟨fun h => hs.1 (String.append_eq_empty_iff.1 h).1, fun c hc => ?_⟩
  rw [String.toList_append, List.mem_append] at hc
  exact hc.elim (hs.2 c) (ht c)

lemma IsWord.lastWord?_eq {name : String} (h : IsWord name) :
    lastWord? (' ' :: name.toList) = some name := by
  obtain ⟨hne, hchars⟩ := h
  have hreverse : ∀ c ∈ name.toList.reverse, isWordChar c = true :=
    fun c hc => hchars c (List.mem_reverse.1 hc)
  have hnil : name.toList.reverse ≠ [] :=
    fun h => hne (String.toList_eq_nil_iff.1 (List.reverse_eq_nil_iff.1 h))
  have hspace : (name.toList.reverse ++ [' ']).dropWhile (fun c => decide (c = ' ')) =
      name.toList.reverse ++ [' '] := by
    cases hlist : name.toList.reverse with
    | nil => exact absurd hlist hnil
    | cons c rest =>
      have hword := hreverse c (hlist ▸ List.mem_cons_self ..)
      have hc : c ≠ ' ' := by
        rintro rfl
        exact absurd hword (by decide)
      rw [List.cons_append, List.dropWhile_cons_of_neg (by simpa using hc)]
  have htake : (name.toList.reverse ++ [' ']).takeWhile isWordChar = name.toList.reverse := by
    rw [List.takeWhile_append_of_pos hreverse,
      List.takeWhile_cons_of_neg (by decide), List.append_nil]
  rw [lastWord?, List.reverse_cons, hspace, htake, List.reverse_reverse]
  simp [hne]

/-- What comes behind a type declares a name. -/
lemma IsWord.nameIn?_eq {name : String} (h : IsWord name) {s : List Char} {c : Char}
    (hc : c ∈ ['[', '=', '(', ';']) (more : List Char)
    (hs : behindArgument (s.dropWhile isWordChar) = ' ' :: name.toList ++ c :: more) :
    nameIn? s = some name := by
  have hdeclarator : ∀ c ∈ ' ' :: name.toList, isDeclaratorChar c = true := by
    refine List.forall_mem_cons.2 ⟨by decide, fun c hc => ?_⟩
    simp [isDeclaratorChar, h.2 c hc]
  have hends : ['[', '=', '(', ';'].all (fun c => !isDeclaratorChar c) = true := by decide
  have hend : ¬isDeclaratorChar c = true := by simpa using List.all_eq_true.1 hends c hc
  rw [nameIn?, hs, List.dropWhile_append_of_pos hdeclarator, List.dropWhile_cons_of_neg hend,
    List.takeWhile_append_of_pos hdeclarator, List.takeWhile_cons_of_neg hend, List.append_nil]
  simp only [if_pos hc, h.lastWord?_eq]

lemma dropWhile_isWordChar {type : String} (h : ∀ c ∈ type.toList, isWordChar c = true) {c : Char}
    (hc : isWordChar c = false) (more : List Char) :
    (type.toList ++ c :: more).dropWhile isWordChar = c :: more := by
  rw [List.dropWhile_append_of_pos h, List.dropWhile_cons_of_neg (by simp [hc])]

/-- A declaration of a type without an argument. -/
theorem nameIn?_declaration {type name : String} (htype : IsWord type) (hname : IsWord name)
    {c : Char} (hc : c ∈ ['[', '=', '(', ';']) (more : List Char) :
    nameIn? (type.toList ++ ' ' :: name.toList ++ c :: more) = some name := by
  refine hname.nameIn?_eq hc more ?_
  rw [List.append_assoc, List.cons_append, dropWhile_isWordChar htype.2 (by decide)]
  rfl

/-- A declaration of a type with an argument, whatever that is. -/
theorem nameIn?_template {type name : String} (htype : IsWord type) (hname : IsWord name)
    (argument : List Char) :
    nameIn? (type.toList ++ '<' :: (argument ++ '>' :: ' ' :: name.toList ++ [';'])) =
      some name := by
  have hclose : ∀ c ∈ (' ' :: name.toList ++ [';']).reverse, decide (c ≠ '>') = true := by
    intro c hc
    rw [List.mem_reverse, List.cons_append, List.mem_cons, List.mem_append,
      List.mem_singleton] at hc
    rcases hc with rfl | hc | rfl
    · decide
    · refine decide_eq_true ?_
      rintro rfl
      exact absurd (hname.2 _ hc) (by decide)
    · decide
  refine hname.nameIn?_eq (c := ';') (by decide) [] ?_
  rw [dropWhile_isWordChar htype.2 (by decide), behindArgument]
  have hsplit : (argument ++ '>' :: ' ' :: name.toList ++ [';']).reverse =
      (' ' :: name.toList ++ [';']).reverse ++ '>' :: argument.reverse := by simp
  rw [hsplit, List.takeWhile_append_of_pos hclose, List.takeWhile_cons_of_neg (by simp),
    List.append_nil, List.reverse_reverse]

lemma isWordChar_of_isBlank {c : Char} (h : isBlank c = true) : isWordChar c = false := by
  rw [Bool.eq_false_iff]
  intro hword
  have hrange : 48 ≤ c.toNat ∧ c.toNat ≤ 122 := by
    have hclasses : (decide ('A'.val ≤ c.val ∧ c.val ≤ 'Z'.val) ||
        (decide ('a'.val ≤ c.val) && decide (c.val ≤ 'z'.val)) ||
        (decide ('0'.val ≤ c.val) && decide (c.val ≤ '9'.val)) || decide (c = '_')) = true := hword
    simp only [Bool.or_eq_true, Bool.and_eq_true, decide_eq_true_eq] at hclasses
    rcases hclasses with ((⟨hlow, hhigh⟩ | ⟨hlow, hhigh⟩) | ⟨hlow, hhigh⟩) | rfl
    · exact ⟨Nat.le_trans (by decide : 48 ≤ 65) hlow, Nat.le_trans hhigh (by decide : 90 ≤ 122)⟩
    · exact ⟨Nat.le_trans (by decide : 48 ≤ 97) hlow, hhigh⟩
    · exact ⟨hlow, Nat.le_trans hhigh (by decide : 57 ≤ 122)⟩
    · decide
  simp only [isBlank, Bool.or_eq_true, Bool.and_eq_true, decide_eq_true_eq, beq_iff_eq] at h
  omega

/-- Blank characters declare nothing. -/
theorem nameIn?_blank {s : List Char} (h : s.all isBlank = true) (hspace : s.head? ≠ some ' ') :
    nameIn? s = none := by
  cases s with
  | nil => rfl
  | cons c rest =>
    have hblank : isBlank c = true := List.all_eq_true.1 h c (List.mem_cons_self ..)
    have hother : ['[', '=', '(', ';', '<', '&'].all (fun c => !isBlank c) = true := by decide
    have hne : ∀ c' ∈ ['[', '=', '(', ';', '<', '&'], c ≠ c' := by
      rintro c' hc' rfl
      exact absurd hblank (by simpa using List.all_eq_true.1 hother c hc')
    have hword := isWordChar_of_isBlank hblank
    have hrest : behindArgument ((c :: rest).dropWhile isWordChar) = c :: rest := by
      rw [List.dropWhile_cons_of_neg (by simp [hword]), behindArgument]
      rintro rest' heq
      exact hne '<' (by decide) (List.cons.inj heq).1
    have hdeclarator : ¬isDeclaratorChar c = true := by
      simp_all [isDeclaratorChar]
    rw [nameIn?, hrest, List.dropWhile_cons_of_neg hdeclarator]
    exact if_neg (by simp_all)

end ControlSurface.Text
