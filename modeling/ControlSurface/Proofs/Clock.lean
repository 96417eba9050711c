import ControlSurface.Service.Clock
import ControlSurface.Proofs.Rounding

/-!
# Readings in order
-/

namespace ControlSurface

namespace Binary64

/-- Whether a number is at most another one. -/
def AtMost (x y : Binary64) : Prop :=
  ∃ p q, x.position? = some p ∧ y.position? = some q ∧ toLex p ≤ toLex q

lemma position?_infinite (s : Bool) :
    (infinite s).position? = some (if s then -1 else 1, 0) := rfl

lemma position?_sub_finite (s t : Bool) (m n : ℕ) (e f : ℤ) :
    ((finite s m e).sub (finite t n f)).position? =
      some (place (rounded (signum s * m * 2 ^ e - signum t * n * 2 ^ f))) := by
  have hsign : signum (!t) = -signum t := by cases t <;> simp [signum]
  rw [sub, neg, position?_add_finite, hsign, neg_mul, neg_mul, ← sub_eq_add_neg]

/-- All numbers stand between the two infinities. -/
lemma place_bounds (x : ℚ) : toLex (-1, 0) ≤ toLex (place x) ∧ toLex (place x) ≤ toLex (1, 0) := by
  have hlt {i j : ℤ} {p q : ℚ} (hij : i < j) : toLex (i, p) ≤ toLex (j, q) :=
    Prod.Lex.toLex_le_toLex.2 (.inl hij)
  unfold place
  split_ifs
  · exact ⟨hlt (by decide), le_rfl⟩
  · exact ⟨le_rfl, hlt (by decide)⟩
  · exact ⟨hlt (by decide), hlt (by decide)⟩

/-- Subtracting the same finite number keeps the order, although both differences are rounded. -/
theorem AtMost.sub {x y : Binary64} (h : AtMost x y) (t : Bool) (n : ℕ) (f : ℤ) :
    AtMost (x.sub (finite t n f)) (y.sub (finite t n f)) := by
  obtain ⟨p, q, hp, hq, hle⟩ := h
  cases x with
  | nan => cases hp
  | infinite s =>
    cases y with
    | nan => cases hq
    | infinite s' => exact ⟨p, q, hp, hq, hle⟩
    | finite s' m e =>
      refine ⟨p, _, hp, position?_sub_finite s' t m n e f, ?_⟩
      rw [position?_infinite, Option.some_inj] at hp
      rw [position?_finite, Option.some_inj] at hq
      subst hp hq
      cases s
      · exact absurd hle (by simp [Prod.Lex.toLex_le_toLex])
      · exact (place_bounds _).1
  | finite s m e =>
    cases y with
    | nan => cases hq
    | infinite s' =>
      refine ⟨_, q, position?_sub_finite s t m n e f, hq, ?_⟩
      rw [position?_finite, Option.some_inj] at hp
      rw [position?_infinite, Option.some_inj] at hq
      subst hp hq
      cases s'
      · exact (place_bounds _).2
      · exact absurd hle (by simp [Prod.Lex.toLex_le_toLex])
    | finite s' m' e' =>
      refine ⟨_, _, position?_sub_finite s t m n e f, position?_sub_finite s' t m' n e' f, ?_⟩
      rw [position?_finite, Option.some_inj] at hp hq
      subst hp hq
      apply place_mono
      apply rounded_mono
      have : signum s * m * 2 ^ e ≤ signum s' * m' * 2 ^ e' := by
        simpa [Prod.Lex.toLex_le_toLex] using hle
      linarith

end Binary64

namespace Seconds

/-- Two readings of one clock, the first not later than the second. A clock tells whole seconds or
doubles. -/
def Precedes : Seconds → Seconds → Prop
  | .whole m, .whole n => m ≤ n
  | .double x, .double y => x.AtMost y
  | _, _ => False

lemma isBelow_iff (a b : Seconds) : a.isBelow b = true ↔
    ∃ p q, a.position? = some p ∧ b.position? = some q ∧ toLex p < toLex q := by
  cases ha : a.position? <;> cases hb : b.position? <;>
    simp [isBelow, ha, hb, Prod.Lex.toLex_lt_toLex]

lemma isBelow_trans {a b c : Seconds} (hab : a.isBelow b = true) (hbc : b.isBelow c = true) :
    a.isBelow c = true := by
  obtain ⟨p, q, hp, hq, hpq⟩ := (isBelow_iff a b).1 hab
  obtain ⟨q', r, hq', hr, hqr⟩ := (isBelow_iff b c).1 hbc
  obtain rfl : q = q' := Option.some_inj.1 (hq.symm.trans hq')
  exact (isBelow_iff a c).2 ⟨p, r, hp, hr, hpq.trans hqr⟩

lemma isBelow_irrefl (a : Seconds) : a.isBelow a = false := by
  rw [Bool.eq_false_iff]
  intro h
  obtain ⟨p, q, hp, hq, hpq⟩ := (isBelow_iff a a).1 h
  obtain rfl : p = q := Option.some_inj.1 (hp.symm.trans hq)
  exact lt_irrefl _ hpq

/-- The places of two readings in order are in order. -/
lemma Precedes.position {a b : Seconds} (h : Precedes a b) :
    ∃ p q, a.position? = some p ∧ b.position? = some q ∧ toLex p ≤ toLex q := by
  cases a <;> cases b <;> simp only [Precedes] at h
  · exact ⟨_, _, rfl, rfl, Prod.Lex.toLex_le_toLex.2 (.inr ⟨rfl, by simpa using h⟩)⟩
  · exact h

lemma Precedes.not_isBelow {a b : Seconds} (h : Precedes a b) : b.isBelow a = false := by
  obtain ⟨p, q, hp, hq, hpq⟩ := h.position
  rw [Bool.eq_false_iff]
  intro hba
  obtain ⟨q', p', hq', hp', hlt⟩ := (isBelow_iff b a).1 hba
  obtain rfl : p = p' := Option.some_inj.1 (hp.symm.trans hp')
  obtain rfl : q = q' := Option.some_inj.1 (hq.symm.trans hq')
  exact absurd hlt (not_lt.2 hpq)

lemma Precedes.isBelow {a b c : Seconds} (h : Precedes a b) (hbc : b.isBelow c = true) :
    a.isBelow c = true := by
  obtain ⟨p, q, hp, hq, hpq⟩ := h.position
  obtain ⟨q', r, hq', hr, hqr⟩ := (isBelow_iff b c).1 hbc
  obtain rfl : q = q' := Option.some_inj.1 (hq.symm.trans hq')
  exact (isBelow_iff a c).2 ⟨p, r, hp, hr, hpq.trans_lt hqr⟩

lemma Precedes.self {a b : Seconds} (h : Precedes a b) : Precedes b b := by
  cases a <;> cases b <;> simp only [Precedes] at h
  · exact le_refl _
  · obtain ⟨p, q, -, hq, -⟩ := h
    exact ⟨q, q, hq, hq, le_rfl⟩

lemma Precedes.isBelow_of_isBelow {a b c : Seconds} (h : Precedes a b) (hca : c.isBelow a = true) :
    c.isBelow b = true := by
  obtain ⟨p, q, hp, hq, hpq⟩ := h.position
  obtain ⟨r, p', hr, hp', hlt⟩ := (isBelow_iff c a).1 hca
  obtain rfl : p = p' := Option.some_inj.1 (hp.symm.trans hp')
  exact (isBelow_iff c b).2 ⟨r, q, hr, hq, hlt.trans_le hpq⟩

end Seconds

end ControlSurface
