import ControlSurface.Proofs.Limiter.Table
import Mathlib.Data.Real.Basic

/-!
# Minutes

Which charges count is told from a difference of readings that may have been rounded. A clock is
exact for the limiter if this makes no reading drop out of a minute that it lies in. Whole seconds
are exact, and so are doubles that are neither negative nor very large. Other doubles are not.
-/

namespace ControlSurface.Limiter

/-- Whether a reading lies in the minute that ends at a time, the beginning left out. -/
def InMinute (T : ℝ) (t : Seconds) : Prop :=
  ∃ x : ℚ, t.position? = some (0, x) ∧ T - 60 < x ∧ (x : ℝ) ≤ T

/-- Whether a reading is a number, neither infinite nor undefined. -/
def IsNumber (t : Seconds) : Prop := ∃ x : ℚ, t.position? = some (0, x)

/-- Whether a reading is later than the true beginning of the minute that ends at another one. -/
def isWithinMinute (now t : Seconds) : Bool :=
  match now.position?, t.position? with
  | some (0, x), some (0, y) => x - 60 < y
  | _, _ => false

/-- Whether rounding does not make an earlier reading drop out of the minute that ends at a later
one. -/
def IsExact (t now : Seconds) : Prop := isWithinMinute now t = true → counts now t = true

lemma isWithinMinute_iff (now t : Seconds) : isWithinMinute now t = true ↔
    ∃ x y, now.position? = some (0, x) ∧ t.position? = some (0, y) ∧ x - 60 < y := by
  unfold isWithinMinute
  split
  · next x y hx hy => simp [hx, hy]
  · next h =>
    refine ⟨fun h => absurd h Bool.false_ne_true, ?_⟩
    rintro ⟨x, y, hx, hy, -⟩
    exact absurd hy (h x y hx)

/-- Two readings in one minute are less than a minute apart. -/
lemma InMinute.isWithinMinute {T : ℝ} {now t : Seconds} (hnow : InMinute T now)
    (ht : InMinute T t) : isWithinMinute now t = true := by
  obtain ⟨x, hx, -, hxT⟩ := hnow
  obtain ⟨y, hy, hTy, -⟩ := ht
  refine (isWithinMinute_iff now t).2 ⟨x, y, hx, hy, ?_⟩
  have hreal : (x : ℝ) - 60 < y := by linarith
  exact_mod_cast hreal

/-- What lies within a minute before a reading lies within a minute before earlier ones. -/
lemma isWithinMinute_of_precedes {t r r' : Seconds} (htr : t.Precedes r) (hrr : r.Precedes r')
    (h : isWithinMinute r' t = true) : isWithinMinute r t = true := by
  obtain ⟨x, y, hx, hy, hlt⟩ := (isWithinMinute_iff r' t).1 h
  obtain ⟨p, q, hp, hq, hpq⟩ := htr.position
  obtain ⟨q', p', hq', hp', hqp⟩ := hrr.position
  obtain rfl : (0, y) = p := Option.some_inj.1 (hy.symm.trans hp)
  obtain rfl : q = q' := Option.some_inj.1 (hq.symm.trans hq')
  obtain rfl : (0, x) = p' := Option.some_inj.1 (hx.symm.trans hp')
  obtain ⟨i, z⟩ := q
  rw [Prod.Lex.toLex_le_toLex] at hpq hqp
  simp only at hpq hqp
  obtain rfl : i = 0 := by omega
  refine (isWithinMinute_iff r t).2 ⟨z, y, hq, hy, ?_⟩
  have hzx : z ≤ x := by simpa using hqp
  linarith

/-! ### Exact readings -/

/-- Whether a reading is whole or a double as it is normally held, from zero up to, but not
including, the 55th power of two: a thousand million years of seconds. -/
def IsOrdinary : Seconds → Prop
  | .whole _ => True
  | .double (.finite false m e) => m < 2 ^ 53 ∧ Binary64.leastExponent ≤ e ∧ e ≤ 2
  | .double _ => False

lemma position?_minus_window (s : Bool) (m : ℕ) (e : ℤ) :
    ((Seconds.double (.finite s m e)).minus window).position? =
      some (Binary64.place (Binary64.rounded (Binary64.signum s * m * 2 ^ e - 60))) := by
  have hval : Binary64.signum false * ((15 * 2 ^ 49 : ℕ) : ℚ) * 2 ^ (-47 : ℤ) = 60 := by
    norm_num [Binary64.signum]
  have hminus : (Seconds.double (.finite s m e)).minus window =
      .double (Binary64.sub (.finite s m e) (Binary64.ofInt 60)) := rfl
  rw [hminus, Seconds.position?, ofInt_sixty, Binary64.position?_sub_finite, hval]

/-- From one minute on, a minute is subtracted exactly. -/
lemma rounded_sub_sixty {m : ℕ} {e : ℤ} (hm : m < 2 ^ 53) (he : Binary64.leastExponent ≤ e)
    (he2 : e ≤ 2) (h : (60 : ℚ) ≤ m * 2 ^ e) :
    Binary64.rounded (m * 2 ^ e - 60) = m * 2 ^ e - 60 := by
  have hunit : (0 : ℚ) < 2 ^ e := by positivity
  have hsixty : (60 : ℚ) = ((15 * 2 ^ (2 - e).toNat : ℕ) : ℚ) * 2 ^ e := by
    rw [Nat.cast_mul, Nat.cast_pow, ← zpow_natCast, Int.toNat_of_nonneg (by omega), mul_assoc,
      Nat.cast_ofNat, Nat.cast_ofNat, ← zpow_add₀ two_ne_zero, sub_add_cancel]
    norm_num
  have hle : 15 * 2 ^ (2 - e).toNat ≤ m := by
    rw [hsixty] at h
    exact_mod_cast le_of_mul_le_mul_right h hunit
  have hdiff : (m : ℚ) * 2 ^ e - 60 =
      Binary64.signum false * ((m - 15 * 2 ^ (2 - e).toNat : ℕ) : ℚ) * 2 ^ e := by
    rw [Nat.cast_sub hle, Binary64.signum, if_neg Bool.false_ne_true, one_mul, sub_mul, ← hsixty]
  rw [hdiff]
  exact Binary64.rounded_eq false (by omega) he

/-- A number below a minute is below it by one unit of the least place at least. -/
lemma add_unit_le_sixty {m : ℕ} {e least : ℤ} (hleast : least ≤ 0) (he : least ≤ e)
    (h : (m : ℚ) * 2 ^ e < 60) : (m : ℚ) * 2 ^ e + 2 ^ least ≤ 60 := by
  have hunit : (0 : ℚ) < 2 ^ least := by positivity
  have hx : (m : ℚ) * 2 ^ e = ((m * 2 ^ (e - least).toNat : ℕ) : ℚ) * 2 ^ least := by
    rw [Nat.cast_mul, Nat.cast_pow, ← zpow_natCast, Int.toNat_of_nonneg (by omega), mul_assoc,
      Nat.cast_ofNat, ← zpow_add₀ two_ne_zero, sub_add_cancel]
  have hsixty : (60 : ℚ) = ((60 * 2 ^ (-least).toNat : ℕ) : ℚ) * 2 ^ least := by
    rw [Nat.cast_mul, Nat.cast_pow, ← zpow_natCast, Int.toNat_of_nonneg (by omega), mul_assoc,
      Nat.cast_ofNat, Nat.cast_ofNat, ← zpow_add₀ two_ne_zero, neg_add_cancel, zpow_zero, mul_one]
  rw [hx, hsixty] at h ⊢
  have hlt : m * 2 ^ (e - least).toNat < 60 * 2 ^ (-least).toNat := by
    exact_mod_cast lt_of_mul_lt_mul_right h hunit.le
  have hcast : ((m * 2 ^ (e - least).toNat : ℕ) : ℚ) + 1 ≤ ((60 * 2 ^ (-least).toNat : ℕ) : ℚ) := by
    exact_mod_cast hlt
  calc ((m * 2 ^ (e - least).toNat : ℕ) : ℚ) * 2 ^ least + 2 ^ least
      = (((m * 2 ^ (e - least).toNat : ℕ) : ℚ) + 1) * 2 ^ least := by ring
    _ ≤ ((60 * 2 ^ (-least).toNat : ℕ) : ℚ) * 2 ^ least := by gcongr

/-- Before that, the difference stays negative. -/
lemma rounded_sub_sixty_neg {m : ℕ} {e : ℤ} (he : Binary64.leastExponent ≤ e)
    (h : (m : ℚ) * 2 ^ e < 60) : Binary64.rounded (m * 2 ^ e - 60) < 0 := by
  have hunit : (0 : ℚ) < 2 ^ Binary64.leastExponent := zpow_pos two_pos _
  have hleast : Binary64.signum true * (1 : ℕ) * 2 ^ Binary64.leastExponent =
      -2 ^ Binary64.leastExponent := by
    rw [Binary64.signum, if_pos rfl, Nat.cast_one, mul_one, neg_one_mul]
  have hstep := add_unit_le_sixty (by decide) he h
  have hround := Binary64.rounded_eq true (by norm_num : 1 < 2 ^ 53) le_rfl
  rw [hleast] at hround
  calc Binary64.rounded (m * 2 ^ e - 60)
      ≤ Binary64.rounded (-2 ^ Binary64.leastExponent) := by
        apply Binary64.rounded_mono
        rw [sub_le_iff_le_add, ← sub_eq_neg_add]
        exact le_sub_right_of_add_le hstep
    _ = -2 ^ Binary64.leastExponent := hround
    _ < 0 := neg_neg_of_pos hunit

lemma toLex_place_lt {x y : ℚ} (hxy : x < y) (hy : y < Binary64.outOfRange) :
    toLex (Binary64.place x) < toLex (0, y) := by
  unfold Binary64.place
  split_ifs with h h'
  · linarith
  · exact Prod.Lex.toLex_lt_toLex.2 (.inl neg_one_lt_zero)
  · exact Prod.Lex.toLex_lt_toLex.2 (.inr ⟨rfl, hxy⟩)

lemma isExact_whole (m n : ℤ) : IsExact (.whole m) (.whole n) := by
  intro hwithin
  obtain ⟨x, y, hx, hy, hlt⟩ := (isWithinMinute_iff _ _).1 hwithin
  obtain rfl : (n : ℚ) = x := by simpa [Seconds.position?] using hx
  obtain rfl : (m : ℚ) = y := by simpa [Seconds.position?] using hy
  have hint : n - 60 < m := by exact_mod_cast hlt
  simpa [counts, window] using hint

lemma position?_double (m : ℕ) (e : ℤ) :
    (Seconds.double (.finite false m e)).position? = some (0, (m : ℚ) * 2 ^ e) := by
  rw [Seconds.position?, Binary64.position?_finite, Binary64.signum, if_neg Bool.false_ne_true,
    one_mul]

lemma precedes_finite {s t : Bool} {m n : ℕ} {e f : ℤ}
    (h : Binary64.signum s * m * 2 ^ e ≤ Binary64.signum t * n * 2 ^ f) :
    Seconds.Precedes (.double (.finite s m e)) (.double (.finite t n f)) :=
  ⟨_, _, Binary64.position?_finite s m e, Binary64.position?_finite t n f,
    Prod.Lex.toLex_le_toLex.2 (.inr ⟨rfl, h⟩)⟩

lemma precedes_double {m n : ℕ} {e f : ℤ} (h : (m : ℚ) * 2 ^ e ≤ n * 2 ^ f) :
    Seconds.Precedes (.double (.finite false m e)) (.double (.finite false n f)) :=
  ⟨_, _, position?_double m e, position?_double n f, Prod.Lex.toLex_le_toLex.2 (.inr ⟨rfl, h⟩)⟩

lemma isExact_double {m n : ℕ} {e f : ℤ} (hm : m < 2 ^ 53) (he : e ≤ 2) (hn : n < 2 ^ 53)
    (hleast : Binary64.leastExponent ≤ f) (hf : f ≤ 2) :
    IsExact (.double (.finite false m e)) (.double (.finite false n f)) := by
  intro hwithin
  obtain ⟨x, y, hx, hy, hlt⟩ := (isWithinMinute_iff _ _).1 hwithin
  rw [position?_double, Option.some_inj, Prod.mk.injEq] at hx hy
  obtain ⟨-, rfl⟩ := hx
  obtain ⟨-, rfl⟩ := hy
  have hplace := position?_minus_window false n f
  rw [Binary64.signum, if_neg Bool.false_ne_true, one_mul] at hplace
  have hnonneg : (0 : ℚ) ≤ m * 2 ^ e := by positivity
  have hrange := Binary64.mul_zpow_lt_outOfRange hm (he.trans (by decide))
  rw [counts, Seconds.isBelow_iff]
  refine ⟨_, _, hplace, position?_double m e, toLex_place_lt ?_ hrange⟩
  rcases le_or_gt 60 ((n : ℚ) * 2 ^ f) with hlate | hearly
  · rw [rounded_sub_sixty hn hleast hf hlate]
    exact hlt
  · exact (rounded_sub_sixty_neg hleast hearly).trans_le hnonneg

lemma IsOrdinary.exists_finite {x : Binary64} (h : IsOrdinary (.double x)) :
    ∃ m e, x = .finite false m e ∧ m < 2 ^ 53 ∧ Binary64.leastExponent ≤ e ∧ e ≤ 2 := by
  cases x with
  | nan => exact h.elim
  | infinite s => exact h.elim
  | finite s m e =>
    cases s
    · exact ⟨m, e, rfl, h⟩
    · exact h.elim

/-- Ordinary readings of one clock are exact. -/
theorem isExact_of_isOrdinary {t now : Seconds} (h : t.Precedes now) (ht : IsOrdinary t)
    (hnow : IsOrdinary now) : IsExact t now := by
  cases t with
  | whole m =>
    cases now with
    | whole n => exact isExact_whole m n
    | double y => exact h.elim
  | double x =>
    cases now with
    | whole n => exact h.elim
    | double y =>
      obtain ⟨m, e, rfl, hm, -, he⟩ := ht.exists_finite
      obtain ⟨n, f, rfl, hn, hleast, hf⟩ := hnow.exists_finite
      exact isExact_double hm he hn hleast hf

/-- So an ordinary clock is exact throughout a run. -/
theorem pairwise_isExact {times : List Seconds} (hclock : times.Pairwise Seconds.Precedes)
    (h : ∀ t ∈ times, IsOrdinary t) : times.Pairwise IsExact :=
  hclock.imp_of_mem fun ht hnow hlt => isExact_of_isOrdinary hlt (h _ ht) (h _ hnow)

end ControlSurface.Limiter
