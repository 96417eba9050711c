import ControlSurface.Proofs.Generator.Field

/-!
# Failures

When exactly a computation fails. All that can go wrong while code is generated is that a value is
asked for its fields or for its items, and has none.
-/

namespace ControlSurface

variable {α β : Type} {P Q : Prop}

/-- Whether a fault is that a value has no fields, or no items. -/
inductive Fault.IsMismatch : Fault → Prop
  | noFields (shape : Shape) : IsMismatch (.noFields shape)
  | notIterable (shape : Shape) : IsMismatch (.notIterable shape)

/-- Whether a computation fails under a condition and only then, and never but for a mismatch. -/
structure FailsIff (P : Prop) (c : Except Fault α) : Prop where
  of_error : ∀ fault, c = .error fault → P ∧ fault.IsMismatch
  of_ok : ∀ a, c = .ok a → ¬P

namespace FailsIff

variable {c : Except Fault α} {f : α → Except Fault β}

lemma exists_error_iff (h : FailsIff P c) : (∃ fault, c = .error fault) ↔ P := by
  constructor
  · rintro ⟨fault, hfault⟩
    exact (h.of_error fault hfault).1
  · intro hP
    cases hc : c with
    | error fault => exact ⟨fault, rfl⟩
    | ok a => exact absurd hP (h.of_ok a hc)

lemma exists_ok (h : FailsIff P c) (hP : ¬P) : ∃ a, c = .ok a := by
  cases hc : c with
  | error fault => exact absurd (h.of_error fault hc).1 hP
  | ok a => exact ⟨a, rfl⟩

lemma congr (h : FailsIff P c) (hiff : P ↔ Q) : FailsIff Q c := by
  rwa [← propext hiff]

lemma ok (a : α) : FailsIff False (.ok a : Except Fault α) where
  of_error _ h := nomatch h
  of_ok _ _ := id

lemma error {fault : Fault} (hP : P) (hfault : fault.IsMismatch) :
    FailsIff P (.error fault : Except Fault α) where
  of_error _ h := Except.error.inj h ▸ ⟨hP, hfault⟩
  of_ok _ h := nomatch h

/-- Either the first computation fails, or the one that goes on with its outcome. -/
lemma bind (hc : FailsIff P c) (hf : ∀ a, c = .ok a → FailsIff Q (f a)) :
    FailsIff (P ∨ Q) (c >>= f) := by
  cases c with
  | error fault =>
    obtain ⟨hP, hfault⟩ := hc.of_error fault rfl
    exact error (.inl hP) hfault
  | ok a => exact (hf a rfl).congr (or_iff_right (hc.of_ok a rfl)).symm

/-- What is made of an outcome plays no part. -/
lemma map (hc : FailsIff P c) (g : α → β) : FailsIff P (do return g (← c)) :=
  (hc.bind fun a _ => ok (g a)).congr (by simp)

/-- A pass over a list fails if it does for one of the items. -/
lemma mapM {l : List α} {P : α → Prop} (h : ∀ a ∈ l, FailsIff (P a) (f a)) :
    FailsIff (∃ a ∈ l, P a) (l.mapM f) := by
  induction l with
  | nil => exact (ok []).congr (by simp)
  | cons a l ih =>
    obtain ⟨ha, hl⟩ := List.forall_mem_cons.1 h
    rw [List.mapM_cons]
    exact (ha.bind fun b _ => (ih hl).map (b :: ·)).congr (by simp)

end FailsIff

/-! ### Outcomes -/

/-- Whether what a computation comes to, if it comes to anything, has a property. -/
def Yields (P : α → Prop) (c : Except Fault α) : Prop := ∀ a, c = .ok a → P a

namespace Yields

variable {P : α → Prop} {c : Except Fault β}

lemma ok {a : α} (h : P a) : Yields P (.ok a) := by
  rintro _ ⟨⟩
  exact h

lemma bind {f : β → Except Fault α} (h : ∀ b, c = .ok b → Yields P (f b)) :
    Yields P (c >>= f) := by
  cases c with
  | error fault => exact fun _ hfault => nomatch hfault
  | ok b => exact h b rfl

lemma map {g : β → α} (h : ∀ b, P (g b)) : Yields P (do return g (← c)) :=
  bind fun b _ => ok (h b)

/-- A pass over a list comes to something only if it does for each of the items. -/
lemma mapM {f : α → Except Fault β} {l : List α} :
    Yields (fun _ => ∀ a ∈ l, ∃ b, f a = .ok b) (l.mapM f) := by
  induction l with
  | nil => exact ok fun a ha => absurd ha List.not_mem_nil
  | cons a l ih =>
    rw [List.mapM_cons]
    apply bind
    intro b hb
    apply bind
    intro bs hbs
    exact ok (List.forall_mem_cons.2 ⟨⟨b, hb⟩, ih bs hbs⟩)

end Yields

/-! ### Fields -/

section Field

variable (v : Value) (key : String)

lemma get_failsIff : FailsIff (¬v.IsObject) (v.get key) := by
  cases v with
  | obj fields => exact (FailsIff.ok _).congr (by simp [Value.IsObject])
  | _ => exact .error (by simp [Value.IsObject]) (.noFields _)

lemma fieldText_failsIff : FailsIff (¬v.IsObject) (fieldText v key) := (get_failsIff v key).map _

lemma flagText_failsIff : FailsIff (¬v.IsObject) (flagText v key) := (get_failsIff v key).map _

lemma pinText_failsIff : FailsIff (¬v.IsObject) (pinText v key) := (fieldText_failsIff v key).map _

end Field

/-- An object of which one field has been read does not fail for the next one. -/
lemma FailsIff.bind_of_isObject {v : Value} {c : Except Fault α} {f : α → Except Fault β}
    (hc : FailsIff (¬v.IsObject) c) (hf : ∀ fields, v = .obj fields → ∀ a, ∃ b, f a = .ok b) :
    FailsIff (¬v.IsObject) (c >>= f) := by
  refine (hc.bind (Q := False) fun a ha => ?_).congr (by simp)
  obtain ⟨fields, hfields⟩ := not_not.1 (hc.of_ok a ha)
  obtain ⟨b, hb⟩ := hf fields hfields a
  rw [hb]
  exact ok b

/-! ### Items -/

namespace Value

/-- Whether a value counts as present, but holds no items. -/
def IsBare (v : Value) : Prop := v.truthy = true ∧ v.items? = none

/-- What a value holds, nothing if it does not count as present. -/
def contents (v : Value) : List Value := (v.orElse (.arr [])).items?.getD []

lemma contents_arr (items : List Value) : (Value.arr items).contents = items := by
  cases items <;> rfl

lemma itemsOrNone_eq {v : Value} (h : ¬v.IsBare) : v.itemsOrNone = .ok v.contents := by
  unfold IsBare at h
  unfold itemsOrNone contents items orElse
  cases htruthy : v.truthy with
  | false => rfl
  | true =>
    obtain ⟨held, hheld⟩ := Option.ne_none_iff_exists'.1 fun hnone => h ⟨htruthy, hnone⟩
    simp [hheld]

lemma itemsOrNone_failsIff (v : Value) : FailsIff v.IsBare v.itemsOrNone := by
  by_cases h : v.IsBare
  · obtain ⟨htruthy, hnone⟩ := h
    have herror : v.itemsOrNone = .error (.notIterable v.shape) := by
      simp [itemsOrNone, items, orElse, htruthy, hnone]
    rw [herror]
    exact .error ⟨htruthy, hnone⟩ (.notIterable _)
  · rw [itemsOrNone_eq h]
    exact (FailsIff.ok _).congr (iff_of_false id h)

end Value

end ControlSurface
