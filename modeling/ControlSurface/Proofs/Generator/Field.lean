import ControlSurface.Generator.Field
import ControlSurface.Proofs.Entries
import ControlSurface.Proofs.Text.Lines
import ControlSurface.Proofs.Text.Number

/-!
# Fields of one line

The fields of an entry as they are written into code. In a normalized description they are texts and
numbers, and so they are written on one line if no text in the description holds a line boundary.
-/

namespace ControlSurface

open Schema Text

/-! ### Values without line boundaries -/

mutual

/-- Whether no text in a value holds a line boundary. Keys are left aside. -/
def Value.IsOneLine : Value → Prop
  | .str s => OneLine s
  | .arr items => Value.AreOneLine items
  | .obj fields => Value.FieldsAreOneLine fields
  | _ => True

/-- Whether no text in a list of values holds a line boundary. -/
def Value.AreOneLine : List Value → Prop
  | [] => True
  | v :: rest => v.IsOneLine ∧ Value.AreOneLine rest

/-- Whether no text among the values of some fields holds a line boundary. -/
def Value.FieldsAreOneLine : List (String × Value) → Prop
  | [] => True
  | (_, v) :: rest => v.IsOneLine ∧ Value.FieldsAreOneLine rest

end

lemma Value.IsOneLine.mem {items : List Value} (h : (Value.arr items).IsOneLine) :
    ∀ v ∈ items, v.IsOneLine := by
  rw [IsOneLine] at h
  induction items with
  | nil => exact fun _ hv => absurd hv List.not_mem_nil
  | cons v rest ih =>
    rw [AreOneLine] at h
    exact List.forall_mem_cons.2 ⟨h.1, ih h.2⟩

lemma Value.IsOneLine.mem_fields {fields : List (String × Value)}
    (h : (Value.obj fields).IsOneLine) : ∀ p ∈ fields, p.2.IsOneLine := by
  rw [IsOneLine] at h
  induction fields with
  | nil => exact fun _ hp => absurd hp List.not_mem_nil
  | cons p rest ih =>
    rw [FieldsAreOneLine] at h
    exact List.forall_mem_cons.2 ⟨h.1, ih h.2⟩

lemma Value.IsOneLine.lookup {fields : List (String × Value)} {key : String} {w : Value}
    (h : (Value.obj fields).IsOneLine) (hw : fields.lookup key = some w) : w.IsOneLine :=
  h.mem_fields _ (mem_of_lookup hw)

lemma Value.IsOneLine.get {v w : Value} {key : String} (h : v.IsOneLine) (hw : v.get key = .ok w) :
    w.IsOneLine := by
  cases v with
  | obj fields =>
    rw [get_obj, Except.ok.injEq] at hw
    subst hw
    cases hlookup : fields.lookup key with
    | none => exact trivial
    | some w => exact h.lookup hlookup
  | _ => cases hw

/-! ### Numbers -/

lemma isLineEnd_of_isDigit {c : Char} (h : c.isDigit = true) : isLineEnd c = false := by
  rw [Bool.eq_false_iff]
  intro hend
  simp only [isLineEnd, Bool.or_eq_true, Bool.and_eq_true, decide_eq_true_eq, beq_iff_eq] at hend
  simp only [Char.isDigit, Bool.and_eq_true, decide_eq_true_eq] at h
  have hlow : 48 ≤ c.toNat := h.1
  have hhigh : c.toNat ≤ 57 := h.2
  omega

lemma oneLine_natCast (n : ℕ) : OneLine (toString n) :=
  fun _ hc => isLineEnd_of_isDigit (isDigit_of_mem_toString hc)

lemma oneLine_intCast (n : ℤ) : OneLine (toString n) := by
  cases n with
  | ofNat n => exact oneLine_natCast n
  | negSucc n =>
    have h : toString (Int.negSucc n) = "-" ++ toString (n + 1) := rfl
    rw [h]
    exact OneLine.append (by decide) (oneLine_natCast _)

/-- What a simple field holds is written on one line. -/
lemma oneLine_text {t : Scalar} {v : Value} (ht : t.Fits v) (h : v.IsOneLine) : OneLine v.text := by
  cases t with
  | text =>
    obtain ⟨s, rfl⟩ := ht
    rwa [Value.IsOneLine] at h
  | flag =>
    obtain ⟨b, rfl⟩ := ht
    cases b <;> decide
  | pin =>
    rcases ht with ⟨s, rfl⟩ | ⟨n, rfl⟩
    · rwa [Value.IsOneLine] at h
    · exact oneLine_intCast n

/-! ### Fields -/

/-- Whether a value is an object. -/
def Value.IsObject (v : Value) : Prop := ∃ fields, v = .obj fields

lemma isObject_of_fits {τ : Type} {fits : τ → Value → Prop} {r : Record τ} {v : Value}
    (h : r.Fits fits v) : v.IsObject := by
  obtain ⟨fields, rfl, -⟩ := h
  exact ⟨fields, rfl⟩

namespace Value

/-- The field of a value, null if it has none. -/
def field : Value → String → Value
  | .obj fields, key => (fields.lookup key).getD .null
  | _, _ => .null

variable {v w : Value} {key : String} {fields : List (String × Value)}

lemma get_eq_field (h : v.IsObject) (key : String) : v.get key = .ok (v.field key) := by
  obtain ⟨fields, rfl⟩ := h
  rfl

lemma field_of_lookup (h : fields.lookup key = some w) : (Value.obj fields).field key = w := by
  rw [field, h, Option.getD_some]

lemma field_eq_null (h : fields.lookup key = none) : (Value.obj fields).field key = .null := by
  rw [field, h, Option.getD_none]

lemma lookup_of_field (h : (Value.obj fields).field key = w) (hw : w ≠ .null) :
    fields.lookup key = some w := by
  cases hlookup : fields.lookup key with
  | none => exact absurd (h.symm.trans (field_eq_null hlookup)) hw
  | some w' => exact congrArg some ((field_of_lookup hlookup).symm.trans h)

end Value

/-- The field of an entry as it is written into code. -/
def fieldOf : Value → String → String
  | .obj fields, key =>
    let value := (fields.lookup key).getD .null
    if value.isNull then "" else value.text
  | _, _ => ""

/-- The field of an entry as a truth value in code. -/
def flagOf : Value → String → String
  | .obj fields, key => if ((fields.lookup key).getD .null).truthy then "true" else "false"
  | _, _ => "false"

/-- The pin that a field of an entry gives, as it is written into code. -/
def pinOf (entry : Value) (key : String) : String := s!"seed.GetPin({fieldOf entry key})"

lemma oneLine_flagOf (entry : Value) (key : String) : OneLine (flagOf entry key) := by
  unfold flagOf
  split
  · split_ifs <;> decide
  · decide

lemma oneLine_pinOf {entry : Value} {key : String} (h : OneLine (fieldOf entry key)) :
    OneLine (pinOf entry key) :=
  (OneLine.append (by decide) h).append (by decide)

lemma perEntry_eq_mapM (entries : List Value) (lines : Value → ℕ → Except Fault (List String)) :
    perEntry entries lines = (do
      return (← entries.zipIdx.mapM fun p => lines p.1 p.2).flatten) := rfl

/-- A simple field of a normalized record is written on one line. -/
lemma oneLine_fieldOf {τ : Type} {fits : τ → Value → Prop} {r : Record τ} {e : Value}
    (he : r.Fits fits e) (h : e.IsOneLine) {f : Schema.Field τ} (hf : f ∈ r.fields) {t : Scalar}
    (ht : ∀ w, fits f.type w → t.Fits w) : OneLine (fieldOf e f.spelling) := by
  obtain ⟨fields, rfl, hfields⟩ := he
  rw [fieldOf]
  cases hlookup : fields.lookup f.spelling with
  | none => decide
  | some w =>
    have hw := oneLine_text (ht w (hfields f hf w hlookup)) (h.lookup hlookup)
    dsimp only [Option.getD_some]
    split_ifs
    · decide
    · exact hw

end ControlSurface
