import Mathlib.Data.Nat.Notation
import Mathlib.Data.List.TakeWhile

/-!
# Numbers within texts

Where a number begins or ends in a text can be told if there is no other digit beside it.
-/

namespace ControlSurface.Text

/-- Whether a text does not go on with a digit. -/
def NoDigitAhead (s : List Char) : Prop := ∀ c ∈ s.head?, c.isDigit = false

/-- Whether a text does not end in a digit. -/
def NoDigitBehind (s : List Char) : Prop := ∀ c ∈ s.getLast?, c.isDigit = false

lemma takeWhile_isDigit_append {digits s : List Char} (h : ∀ c ∈ digits, c.isDigit = true)
    (hs : NoDigitAhead s) : (digits ++ s).takeWhile Char.isDigit = digits := by
  rw [List.takeWhile_append_of_pos h]
  cases s with
  | nil => simp
  | cons c s => simp [hs c rfl]

lemma append_inj_of_isDigit {digits digits' s t : List Char} (h : ∀ c ∈ digits, c.isDigit = true)
    (h' : ∀ c ∈ digits', c.isDigit = true) (hs : NoDigitAhead s) (ht : NoDigitAhead t)
    (heq : digits ++ s = digits' ++ t) : digits = digits' ∧ s = t := by
  have hdigits := congrArg (List.takeWhile Char.isDigit) heq
  rw [takeWhile_isDigit_append h hs, takeWhile_isDigit_append h' ht] at hdigits
  subst hdigits
  exact ⟨rfl, List.append_cancel_left heq⟩

lemma isDigit_of_mem_toString {n : ℕ} {c : Char} (h : c ∈ (toString n).toList) :
    c.isDigit = true := by
  rw [Nat.toString_eq_repr, Nat.toList_repr] at h
  exact Nat.isDigit_of_mem_toDigits (by decide) (by decide) h

lemma toString_injective {m n : ℕ} (h : (toString m).toList = (toString n).toList) : m = n := by
  rw [Nat.toString_eq_repr, Nat.toString_eq_repr, Nat.toList_repr, Nat.toList_repr] at h
  rw [← Nat.ofDigitChars_ten_toDigits (n := m), h, Nat.ofDigitChars_ten_toDigits]

/-- Two numbers before anything but a digit. -/
theorem number_append_inj {m n : ℕ} {s t : List Char} (hs : NoDigitAhead s) (ht : NoDigitAhead t)
    (h : (toString m).toList ++ s = (toString n).toList ++ t) : m = n ∧ s = t := by
  obtain ⟨hdigits, hrest⟩ := append_inj_of_isDigit (fun c => isDigit_of_mem_toString)
    (fun c => isDigit_of_mem_toString) hs ht h
  exact ⟨toString_injective hdigits, hrest⟩

/-- Two numbers behind anything but a digit. -/
theorem append_number_inj {m n : ℕ} {s t : List Char} (hs : NoDigitBehind s) (ht : NoDigitBehind t)
    (h : s ++ (toString m).toList = t ++ (toString n).toList) : s = t ∧ m = n := by
  have hreverse := congrArg List.reverse h
  rw [List.reverse_append, List.reverse_append] at hreverse
  have hahead {s : List Char} (hs : NoDigitBehind s) : NoDigitAhead s.reverse := by
    rwa [NoDigitAhead, List.head?_reverse]
  obtain ⟨hdigits, hrest⟩ := append_inj_of_isDigit
    (fun c hc => isDigit_of_mem_toString (List.mem_reverse.1 hc))
    (fun c hc => isDigit_of_mem_toString (List.mem_reverse.1 hc)) (hahead hs) (hahead ht) hreverse
  exact ⟨List.reverse_inj.1 hrest, toString_injective (List.reverse_inj.1 hdigits)⟩

end ControlSurface.Text
