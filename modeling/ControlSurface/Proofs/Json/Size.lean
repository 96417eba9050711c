import ControlSurface.Description.Reader
import Mathlib.Algebra.Order.Group.Nat

/-!
# Sizes of values

The number of values that a value is made of. A text is never shorter than what is read from it.
-/

namespace ControlSurface

namespace Value

mutual

/-- The number of values that a value is made of, itself included. -/
def size : Value → ℕ
  | .arr items => sizes items + 1
  | .obj fields => fieldSizes fields + 1
  | _ => 1

/-- The number of values that the items of a list are made of. -/
def sizes : List Value → ℕ
  | [] => 0
  | v :: rest => v.size + sizes rest

/-- The number of values that the fields of an object are made of. -/
def fieldSizes : List (String × Value) → ℕ
  | [] => 0
  | (_, v) :: rest => v.size + fieldSizes rest

end

lemma sizes_append (l l' : List Value) : sizes (l ++ l') = sizes l + sizes l' := by
  induction l with
  | nil => simp [sizes]
  | cons v rest ih =>
    rw [List.cons_append, sizes, sizes, ih]
    omega

lemma sizes_reverse (l : List Value) : sizes l.reverse = sizes l := by
  induction l with
  | nil => rfl
  | cons v rest ih =>
    rw [List.reverse_cons, sizes_append, ih, sizes, sizes, sizes]
    omega

lemma fieldSizes_append (l l' : List (String × Value)) :
    fieldSizes (l ++ l') = fieldSizes l + fieldSizes l' := by
  induction l with
  | nil => simp [fieldSizes]
  | cons p rest ih =>
    rw [List.cons_append, fieldSizes, fieldSizes, ih]
    omega

lemma fieldSizes_reverse (l : List (String × Value)) : fieldSizes l.reverse = fieldSizes l := by
  induction l with
  | nil => rfl
  | cons p rest ih =>
    rw [List.reverse_cons, fieldSizes_append, ih, fieldSizes, fieldSizes, fieldSizes]
    omega

/-- A field that replaces another one adds no more than its own size. -/
lemma fieldSizes_put_le (key : String) (v : Value) (fields : List (String × Value)) :
    fieldSizes (Keyed.put key v fields) ≤ fieldSizes fields + v.size := by
  induction fields with
  | nil => simp [Keyed.put, fieldSizes]
  | cons p rest ih =>
    obtain ⟨k, w⟩ := p
    rw [Keyed.put]
    split_ifs
    · simp only [fieldSizes]
      omega
    · simp only [fieldSizes]
      omega

lemma fieldSizes_foldl_put_le (pairs fields : List (String × Value)) :
    fieldSizes (pairs.foldl (fun kept p => Keyed.put p.1 p.2 kept) fields) ≤
      fieldSizes fields + fieldSizes pairs := by
  induction pairs generalizing fields with
  | nil => simp [fieldSizes]
  | cons p rest ih =>
    have hrest := ih (Keyed.put p.1 p.2 fields)
    have hput := fieldSizes_put_le p.1 p.2 fields
    rw [List.foldl_cons, fieldSizes]
    omega

lemma fieldSizes_ofAssignments_le (pairs : List (String × Value)) :
    fieldSizes (Keyed.ofAssignments pairs) ≤ fieldSizes pairs := by
  have h := fieldSizes_foldl_put_le pairs []
  rwa [fieldSizes, Nat.zero_add] at h

end Value

namespace Json

variable {room : ℕ} {s : List Char} {v : Value}

/-! ### Parts of a text -/

lemma size_of_readConstant? {found : Value × Shorter s} (h : readConstant? s = some found) :
    found.1.size = 1 := by
  have hconstants : ∀ p ∈ constants, p.2.size = 1 := by decide
  obtain ⟨⟨word, value⟩, hmem, hword⟩ := List.exists_of_findSome?_eq_some h
  dsimp only at hword
  split_ifs at hword
  obtain ⟨after, -, rfl⟩ := Option.map_eq_some_iff.1 hword
  exact hconstants _ hmem

lemma size_of_value {n : Numeral} (h : n.value = .ok v) : v.size = 1 := by
  unfold Numeral.value at h
  split at h
  · split_ifs at h <;> cases h <;> rfl
  · cases h
    rfl

lemma size_of_readScalar {rest : Shorter s} (h : readScalar s = .ok (v, rest)) : v.size = 1 := by
  unfold readScalar at h
  split at h
  · split at h
    · cases h
    · cases h
      rfl
  · split at h
    · next found hfound =>
      cases h
      exact size_of_readConstant? hfound
    · split at h
      · cases h
      · split at h
        · cases h
        · next hvalue =>
          cases h
          exact size_of_value hvalue

/-! ### Values

The recursion follows the reader, which goes on with what is left of the text. -/

mutual

lemma size_of_readValue (room : ℕ) (s : List Char) {v : Value} {rest : Shorter s}
    (h : readValue room s = .ok (v, rest)) : v.size + rest.1.length ≤ s.length := by
  unfold readValue at h
  split at h
  · next tail =>
    have hskip := length_skipBlanks_le tail
    split at h
    · cases h
    · split at h
      · next after hs =>
        cases h
        rw [hs] at hskip
        simp only [Value.size, Value.sizes, List.length_cons] at *
        omega
      · have hitems := size_of_readItems _ _ _ _ _ h
        simp only [Value.sizes, List.length_cons] at *
        omega
  · next tail =>
    have hskip := length_skipBlanks_le tail
    split at h
    · cases h
    · split at h
      · next after hs =>
        cases h
        rw [hs] at hskip
        simp only [Value.size, Value.fieldSizes, List.length_cons] at *
        omega
      · have hfields := size_of_readFields _ _ _ _ _ h
        simp only [Value.fieldSizes, List.length_cons] at *
        omega
  · have hscalar := size_of_readScalar h
    have hrest := rest.2
    omega
termination_by 2 * s.length
decreasing_by
  all_goals
    subst_vars
    rw [List.length_cons]
    omega

lemma size_of_readItems (room : ℕ) (opening : List Char) (done : List Value) (s : List Char)
    (hs : s.length < opening.length) {v : Value} {rest : Shorter opening}
    (h : readItems room opening done s hs = .ok (v, rest)) :
    v.size + rest.1.length ≤ Value.sizes done + s.length := by
  unfold readItems at h
  split at h
  · cases h
  next value after hafter hvalue =>
    have hsize : value.size + after.length ≤ s.length := size_of_readValue _ _ hvalue
    have hskip := length_skipBlanks_le after
    split at h
    · next tail heq =>
      cases h
      rw [heq] at hskip
      simp only [Value.size, Value.sizes_reverse, Value.sizes, List.length_cons] at *
      omega
    · next tail heq =>
      have htail := length_skipBlanks_le tail
      have hcomma : (skipBlanks after).length = tail.length + 1 := congrArg List.length heq
      have hitems := size_of_readItems _ _ _ _ _ h
      rw [Value.sizes] at hitems
      omega
    · cases h
termination_by 2 * s.length + 1

lemma size_of_readFields (room : ℕ) (opening : List Char) (done : List (String × Value))
    (s : List Char) (hs : s.length < opening.length) {v : Value} {rest : Shorter opening}
    (h : readFields room opening done s hs = .ok (v, rest)) :
    v.size + rest.1.length ≤ Value.fieldSizes done + s.length := by
  unfold readFields at h
  split at h
  · cases h
  next name start hstart hname =>
    split at h
    · cases h
    next value after hafter hvalue =>
      have hsize : value.size + after.length ≤ start.length := size_of_readValue _ _ hvalue
      have hskip := length_skipBlanks_le after
      split at h
      · next tail heq =>
        cases h
        rw [heq] at hskip
        have hfields := Value.fieldSizes_ofAssignments_le ((name, value) :: done).reverse
        simp only [Value.size, Value.fieldSizes_reverse, Value.fieldSizes, List.length_cons] at *
        omega
      · next tail heq =>
        have htail := length_skipBlanks_le tail
        have hcomma : (skipBlanks after).length = tail.length + 1 := congrArg List.length heq
        have hfields := size_of_readFields _ _ _ _ _ h
        rw [Value.fieldSizes] at hfields
        omega
      · cases h
termination_by 2 * s.length + 1

end

/-! ### Texts -/

lemma size_le_of_readAll (h : readAll room s = .ok v) : v.size ≤ s.length := by
  have hskip := length_skipBlanks_le s
  unfold readAll at h
  split at h
  · cases h
  next value rest hrest hvalue =>
    have hsize : value.size + rest.length ≤ _ := size_of_readValue _ _ hvalue
    split at h
    · cases h
      omega
    · cases h

theorem size_le_of_read {text : String} (h : read text = .ok v) :
    v.size ≤ text.toList.length := by
  unfold read readUnmarked at h
  split_ifs at h
  cases hall : readAll maxNesting text.toList with
  | error stop =>
    rw [hall] at h
    cases h
  | ok value =>
    rw [hall] at h
    cases h
    exact size_le_of_readAll hall

end Json

/-- A description is made of no more values than its text has characters. -/
theorem Description.size_le_of_read {text : String} {v : Value} (h : read text = .ok v) :
    v.size ≤ text.toList.length := by
  unfold read at h
  split_ifs at h
  split at h
  · cases h
  · next fields hfields =>
    cases h
    exact Json.size_le_of_read hfields
  · cases h

end ControlSurface
