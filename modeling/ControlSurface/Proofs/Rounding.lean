import ControlSurface.Numeric.Binary64
import Mathlib.Algebra.Order.Field.Power
import Mathlib.Data.Prod.Lex
import Mathlib.Data.Rat.Lemmas
import Mathlib.Tactic.FieldSimp
import Mathlib.Tactic.Linarith
import Mathlib.Tactic.Positivity
import Mathlib.Tactic.NormNum
import Mathlib.Tactic.Ring

namespace ControlSurface.Binary64

/-- A sign as a factor. -/
def signum (negative : Bool) : ℚ := if negative then -1 else 1

lemma signedAt_eq (s : Bool) (m : ℕ) (e lower : ℤ) (h : lower ≤ e) :
    (signedAt s m e lower : ℚ) = signum s * m * 2 ^ (e - lower) := by
  have hpow : ((2 : ℚ) ^ (e - lower).toNat) = 2 ^ (e - lower) := by
    rw [← zpow_natCast, Int.toNat_of_nonneg (by omega)]
  cases s
  · simp [signedAt, signum, Nat.pow_eq, hpow]
  · simp [signedAt, signum, Nat.pow_eq, hpow]

/-- The value of a finite number. -/
theorem toRat?_finite (s : Bool) (m : ℕ) (e : ℤ) :
    (finite s m e).toRat? = some (signum s * m * 2 ^ e) := by
  rw [toRat?, Rat.mkRat_eq_div, signedAt_eq _ _ _ _ (min_le_left e 0), Nat.pow_eq]
  rcases le_total e 0 with h | h
  · have hpow : (((2 ^ (-e).toNat : ℕ) : ℚ)) = 2 ^ (-e) := by
      rw [Nat.cast_pow, ← zpow_natCast, Int.toNat_of_nonneg (by omega)]
      rfl
    rw [min_eq_left h, hpow, sub_self, zpow_zero, zpow_neg, mul_one, div_inv_eq_mul]
  · rw [min_eq_right h, Int.toNat_of_nonpos (by omega), sub_zero, pow_zero, Nat.cast_one, div_one]

lemma position?_finite (s : Bool) (m : ℕ) (e : ℤ) :
    (finite s m e).position? = some (0, signum s * m * 2 ^ e) := by
  rw [position?, toRat?_finite, Option.map_some]
  all_goals simp

/-! ### Rounding a ratio -/

lemma inUnits_pos {num den : ℕ} (hden : 0 < den) (e : ℤ) : 0 < (inUnits 2 num den e).2 := by
  unfold inUnits
  split
  · exact Nat.mul_pos hden (Nat.pow_pos two_pos)
  · exact hden

lemma inUnits_ratio (num den : ℕ) (e : ℤ) :
    ((inUnits 2 num den e).1 : ℚ) / (inUnits 2 num den e).2 = num / den / 2 ^ e := by
  unfold inUnits
  split
  · next h =>
    have hpow : ((2 : ℚ) ^ e.toNat) = 2 ^ e := by rw [← zpow_natCast, Int.toNat_of_nonneg h]
    simp [Nat.pow_eq, hpow, div_div]
  · next h =>
    have hpow : ((2 : ℚ) ^ (-e).toNat) = (2 ^ e)⁻¹ := by
      rw [← zpow_natCast, Int.toNat_of_nonneg (by omega), zpow_neg]
    simp only [Nat.pow_eq, Nat.cast_mul, Nat.cast_pow, Nat.cast_ofNat, hpow]
    ring

/-- Rounding to an integer keeps the order. -/
lemma divNearest_mono {n d n' d' : ℕ} (hd : 0 < d) (hd' : 0 < d')
    (h : (n : ℚ) / d ≤ n' / d') : divNearest n d ≤ divNearest n' d' := by
  rw [div_le_div_iff₀ (by exact_mod_cast hd) (by exact_mod_cast hd')] at h
  have h : n * d' ≤ n' * d := by exact_mod_cast h
  have hn := Nat.div_add_mod n d
  have hn' := Nat.div_add_mod n' d'
  have hr := Nat.mod_lt n hd
  have hr' := Nat.mod_lt n' hd'
  unfold divNearest
  set q := n / d
  set q' := n' / d'
  set r := n % d
  set r' := n' % d'
  have hq : q ≤ q' := by
    by_contra hlt
    have : q' + 1 ≤ q := by omega
    have h1 : (q' + 1) * d * d' ≤ q * d * d' := by gcongr
    nlinarith
  rcases Nat.lt_or_eq_of_le hq with hlt | heq
  · dsimp only
    split <;> split <;> omega
  · have hrr : r * d' ≤ r' * d := by
      rw [← hn, ← hn', heq] at h
      nlinarith
    dsimp only
    rw [heq]
    split
    · split <;> omega
    · next hup =>
      rw [if_neg]
      push Not at hup ⊢
      obtain ⟨h1, h2⟩ := hup
      constructor
      · nlinarith
      · intro h3
        apply h2
        nlinarith

lemma divNearest_one (m : ℕ) : divNearest m 1 = m := by
  simp [divNearest, Nat.mod_one]

lemma div_lt_of_floor_lt {n d k : ℕ} (hd : 0 < d) (h : n / d < k) : (n : ℚ) / d < k := by
  rw [div_lt_iff₀ (by exact_mod_cast hd)]
  exact_mod_cast (Nat.div_lt_iff_lt_mul hd).1 h

lemma le_div_of_le_floor {n d k : ℕ} (hd : 0 < d) (h : k ≤ n / d) : (k : ℚ) ≤ (n : ℚ) / d := by
  rw [le_div_iff₀ (by exact_mod_cast hd)]
  exact_mod_cast (Nat.le_div_iff_mul_le hd).1 h

/-- A ratio lies between the powers of two that the logarithms of its parts give. -/
lemma ratio_bounds {num den : ℕ} (hnum : 0 < num) (hden : 0 < den) :
    (2 : ℚ) ^ ((num.log2 : ℤ) - den.log2 - 1) < num / den ∧
      (num : ℚ) / den < 2 ^ ((num.log2 : ℤ) - den.log2 + 1) := by
  have low (n : ℕ) (h : 0 < n) : (2 : ℚ) ^ (n.log2 : ℤ) ≤ n := by
    rw [zpow_natCast]
    exact_mod_cast Nat.log2_self_le h.ne'
  have high (n : ℕ) : (n : ℚ) < 2 ^ ((n.log2 : ℤ) + 1) := by
    rw [zpow_add_one₀ two_ne_zero, zpow_natCast, ← pow_succ]
    exact_mod_cast Nat.lt_log2_self
  have hden' : (0 : ℚ) < den := by exact_mod_cast hden
  constructor
  · rw [lt_div_iff₀ hden']
    calc (2 : ℚ) ^ ((num.log2 : ℤ) - den.log2 - 1) * den
        < 2 ^ ((num.log2 : ℤ) - den.log2 - 1) * 2 ^ ((den.log2 : ℤ) + 1) := by
          gcongr
          exact high den
      _ = 2 ^ (num.log2 : ℤ) := by
          rw [← zpow_add₀ two_ne_zero]
          congr 1
          ring
      _ ≤ num := low num hnum
  · rw [div_lt_iff₀ hden']
    calc (num : ℚ) < 2 ^ ((num.log2 : ℤ) + 1) := high num
      _ = 2 ^ ((num.log2 : ℤ) - den.log2 + 1) * 2 ^ (den.log2 : ℤ) := by
          rw [← zpow_add₀ two_ne_zero]
          congr 1
          ring
      _ ≤ 2 ^ ((num.log2 : ℤ) - den.log2 + 1) * den := by
          gcongr
          exact low den hden

lemma pow_mul_unit (k : ℕ) (e : ℤ) : (2 : ℚ) ^ k * 2 ^ e = 2 ^ (k + e) := by
  rw [← zpow_natCast, ← zpow_add₀ two_ne_zero]

/-- The exponent that is taken if it is not below the least one: the one that the logarithms of the
parts give, or the next. -/
lemma exists_exponentOf_eq_max {num den : ℕ} (hnum : 0 < num) (hden : 0 < den) :
    ∃ e : ℤ, exponentOf num den = max leastExponent e ∧
      (num : ℚ) / den < 2 ^ 53 * 2 ^ e ∧ 2 ^ 52 * 2 ^ e ≤ (num : ℚ) / den := by
  set guess : ℤ := (num.log2 : ℤ) - den.log2 - 53 with hguess
  obtain ⟨hlow, hhigh⟩ := ratio_bounds hnum hden
  have hratio := inUnits_ratio num den guess
  have hpos : 0 < (inUnits 2 num den guess).2 := inUnits_pos hden guess
  have hunit : (0 : ℚ) < 2 ^ guess := by positivity
  by_cases hfull : (inUnits 2 num den guess).1 / (inUnits 2 num den guess).2 < significandBound
  · refine ⟨guess, ?_, ?_, ?_⟩
    · rw [exponentOf]
      simp only [← hguess, if_pos hfull]
    · have := div_lt_of_floor_lt hpos hfull
      rw [hratio, div_lt_iff₀ hunit] at this
      exact_mod_cast this
    · refine le_of_eq_of_le ?_ hlow.le
      rw [pow_mul_unit, hguess]
      congr 1
      push_cast
      ring
  · refine ⟨guess + 1, ?_, ?_, ?_⟩
    · rw [exponentOf]
      simp only [← hguess, if_neg hfull]
    · refine lt_of_lt_of_eq hhigh ?_
      rw [pow_mul_unit, hguess]
      congr 1
      push_cast
      ring
    · have := le_div_of_le_floor hpos (not_lt.1 hfull)
      rw [hratio, le_div_iff₀ hunit] at this
      rw [zpow_add_one₀ two_ne_zero]
      have hbound : ((significandBound : ℕ) : ℚ) = 2 ^ 52 * 2 := by norm_num [significandBound]
      rw [hbound] at this
      linarith

/-- At the exponent of a ratio its integer part has at most 53 bits, and just 53 unless the exponent
is the least. -/
lemma exponentOf_spec {num den : ℕ} (hnum : 0 < num) (hden : 0 < den) :
    leastExponent ≤ exponentOf num den ∧ (num : ℚ) / den < 2 ^ 53 * 2 ^ exponentOf num den ∧
      (leastExponent < exponentOf num den → 2 ^ 52 * 2 ^ exponentOf num den ≤ (num : ℚ) / den) := by
  obtain ⟨e, he, hbelow, habove⟩ := exists_exponentOf_eq_max hnum hden
  rw [he]
  refine ⟨le_max_left _ _, lt_of_lt_of_le hbelow ?_, fun h => ?_⟩
  · gcongr
    · norm_num
    · exact le_max_right _ _
  · rw [max_eq_right ((lt_max_iff.1 h).resolve_left (lt_irrefl _)).le]
    exact habove

/-- The nearest number to a ratio, if there were no greatest one. -/
def nearest (num den : ℕ) : ℚ :=
  let e := exponentOf num den
  divNearest (inUnits 2 num den e).1 (inUnits 2 num den e).2 * 2 ^ e

lemma exponentOf_mono {num den num' den' : ℕ} (hnum : 0 < num) (hden : 0 < den) (hnum' : 0 < num')
    (hden' : 0 < den') (h : (num : ℚ) / den ≤ num' / den') :
    exponentOf num den ≤ exponentOf num' den' := by
  obtain ⟨-, -, hlow⟩ := exponentOf_spec hnum hden
  obtain ⟨hleast, hhigh, -⟩ := exponentOf_spec hnum' hden'
  by_contra hlt
  rw [not_le] at hlt
  have hle : (2 : ℚ) ^ (exponentOf num' den' + 1) ≤ 2 ^ exponentOf num den := by
    gcongr
    · norm_num
    · omega
  rw [zpow_add_one₀ two_ne_zero] at hle
  have := hlow (by omega)
  linarith

lemma le_divNearest {n d k : ℕ} (hd : 0 < d) (h : (k : ℚ) ≤ n / d) : k ≤ divNearest n d := by
  have hmono : divNearest k 1 ≤ divNearest n d := divNearest_mono one_pos hd (by simpa using h)
  rwa [divNearest_one] at hmono

lemma divNearest_le {n d k : ℕ} (hd : 0 < d) (h : (n : ℚ) / d ≤ k) : divNearest n d ≤ k := by
  have hmono : divNearest n d ≤ divNearest k 1 := divNearest_mono hd one_pos (by simpa using h)
  rwa [divNearest_one] at hmono

/-- The significand at the exponent of a ratio. -/
lemma divNearest_bounds {num den : ℕ} (hnum : 0 < num) (hden : 0 < den) :
    let e := exponentOf num den
    let m := divNearest (inUnits 2 num den e).1 (inUnits 2 num den e).2
    m ≤ 2 ^ 53 ∧ (leastExponent < e → 2 ^ 52 ≤ m) := by
  obtain ⟨-, hhigh, hlow⟩ := exponentOf_spec hnum hden
  intro e m
  have hunit : (0 : ℚ) < 2 ^ e := by positivity
  constructor
  · apply divNearest_le (inUnits_pos hden e)
    rw [inUnits_ratio, div_le_iff₀ hunit]
    exact_mod_cast hhigh.le
  · intro h
    apply le_divNearest (inUnits_pos hden e)
    rw [inUnits_ratio, le_div_iff₀ hunit]
    exact_mod_cast hlow h

/-- Rounding a ratio keeps the order. -/
theorem nearest_mono {num den num' den' : ℕ} (hnum : 0 < num) (hden : 0 < den) (hnum' : 0 < num')
    (hden' : 0 < den') (h : (num : ℚ) / den ≤ num' / den') :
    nearest num den ≤ nearest num' den' := by
  have hexp := exponentOf_mono hnum hden hnum' hden' h
  obtain ⟨hle, -⟩ := divNearest_bounds hnum hden
  obtain ⟨-, hge⟩ := divNearest_bounds hnum' hden'
  have hleast := (exponentOf_spec hnum hden).1
  unfold nearest
  dsimp only at hle hge ⊢
  set e := exponentOf num den
  set e' := exponentOf num' den'
  rcases hexp.eq_or_lt with heq | hlt
  · have : divNearest (inUnits 2 num den e).1 (inUnits 2 num den e).2 ≤
        divNearest (inUnits 2 num' den' e').1 (inUnits 2 num' den' e').2 := by
      apply divNearest_mono (inUnits_pos hden e) (inUnits_pos hden' e')
      rw [inUnits_ratio, inUnits_ratio, heq]
      gcongr
    rw [heq] at this ⊢
    gcongr
  · -- A greater exponent leaves room for the carry of the smaller number.
    have hfull := hge (by omega)
    calc (divNearest (inUnits 2 num den e).1 (inUnits 2 num den e).2 : ℚ) * 2 ^ e
        ≤ 2 ^ 53 * 2 ^ e := by
          gcongr
          exact_mod_cast hle
      _ = 2 ^ 52 * 2 ^ (e + 1) := by
          rw [zpow_add_one₀ two_ne_zero]
          ring
      _ ≤ divNearest (inUnits 2 num' den' e').1 (inUnits 2 num' den' e').2 * 2 ^ e' := by
          gcongr
          · exact_mod_cast hfull
          · norm_num
          · omega

/-- A ratio that is a number already is rounded to itself. -/
theorem nearest_eq {num den m : ℕ} {e : ℤ} (hden : 0 < den) (hm : 0 < m)
    (hbound : m < 2 ^ 53) (he : leastExponent ≤ e) (h : (num : ℚ) / den = m * 2 ^ e) :
    nearest num den = m * 2 ^ e := by
  have hnum : 0 < num := by
    rcases Nat.eq_zero_or_pos num with rfl | hnum
    · have : (0 : ℚ) < m * 2 ^ e := by positivity
      simp [← h] at this
    · exact hnum
  obtain ⟨-, -, hlow⟩ := exponentOf_spec hnum hden
  have hle : exponentOf num den ≤ e := by
    by_contra hlt
    rw [not_le] at hlt
    have hpow : (2 : ℚ) ^ (e + 1) ≤ 2 ^ exponentOf num den := by
      gcongr
      · norm_num
      · omega
    have hm' : (m : ℚ) < 2 ^ 53 := by exact_mod_cast hbound
    have hmul : (m : ℚ) * 2 ^ e < 2 ^ 53 * 2 ^ e := by gcongr
    have := hlow (by omega)
    rw [zpow_add_one₀ two_ne_zero] at hpow
    linarith
  unfold nearest
  set E := exponentOf num den
  have hratio := inUnits_ratio num den E
  have hpos : 0 < (inUnits 2 num den E).2 := inUnits_pos hden E
  have hint : ((inUnits 2 num den E).1 : ℚ) / (inUnits 2 num den E).2 =
      ((m * 2 ^ (e - E).toNat : ℕ) : ℚ) := by
    rw [hratio, h, mul_div_assoc, ← zpow_sub₀ two_ne_zero, Nat.cast_mul, Nat.cast_pow,
      ← zpow_natCast, Int.toNat_of_nonneg (by omega)]
    rfl
  have hexact : divNearest (inUnits 2 num den E).1 (inUnits 2 num den E).2 =
      m * 2 ^ (e - E).toNat :=
    le_antisymm (divNearest_le hpos hint.le) (le_divNearest hpos hint.ge)
  dsimp only
  rw [hexact, ← hint, hratio, h, div_mul_cancel₀ _ (by positivity)]

/-- The first power of two that is out of range. -/
def outOfRange : ℚ := 2 ^ (1024 : ℤ)

/-- All finite numbers are in range. -/
lemma mul_zpow_lt_outOfRange {m : ℕ} {e : ℤ} (hm : m < 2 ^ 53) (he : e ≤ greatestExponent) :
    (m : ℚ) * 2 ^ e < outOfRange := by
  have hm' : (m : ℚ) < 2 ^ 53 := by exact_mod_cast hm
  have hpow : (2 : ℚ) ^ e ≤ 2 ^ greatestExponent := by
    gcongr
    norm_num
  calc (m : ℚ) * 2 ^ e < 2 ^ 53 * 2 ^ e := by gcongr
    _ ≤ 2 ^ 53 * 2 ^ greatestExponent := by gcongr
    _ = outOfRange := pow_mul_unit 53 greatestExponent

/-- What has 53 bits is out of range where its exponent is. -/
lemma outOfRange_le_mul_zpow_iff {m : ℕ} {e : ℤ} (hm : m < 2 ^ 53)
    (hfull : greatestExponent < e → 2 ^ 52 ≤ m) :
    outOfRange ≤ (m : ℚ) * 2 ^ e ↔ greatestExponent < e := by
  constructor
  · intro h
    by_contra hsmall
    exact absurd h (not_le.2 (mul_zpow_lt_outOfRange hm (not_lt.1 hsmall)))
  · intro h
    have hm : (2 : ℚ) ^ 52 ≤ m := by exact_mod_cast hfull h
    have hpow : (2 : ℚ) ^ (greatestExponent + 1) ≤ 2 ^ e := by
      gcongr
      · norm_num
      · exact h
    calc outOfRange = 2 ^ 52 * 2 ^ (greatestExponent + 1) := by
          rw [pow_mul_unit]
          rfl
      _ ≤ m * 2 ^ e := by gcongr

lemma cast_significandBound : ((significandBound : ℕ) : ℚ) = 2 ^ 53 := by
  norm_num [significandBound]

/-- Where a number stands that has been rounded as if there were no greatest one. -/
def place (x : ℚ) : ℤ × ℚ :=
  if outOfRange ≤ x then (1, 0) else if x ≤ -outOfRange then (-1, 0) else (0, x)

lemma outOfRange_pos : 0 < outOfRange := by
  unfold outOfRange
  positivity

lemma place_of_outOfRange_le (s : Bool) {x : ℚ} (h : outOfRange ≤ x) :
    place (signum s * x) = (if s then -1 else 1, 0) := by
  have hpos := outOfRange_pos
  cases s
  · simp [place, signum, h]
  · have hneg : ¬ outOfRange ≤ -x := by linarith
    simp [place, signum, h, hneg]

lemma place_of_lt_outOfRange (s : Bool) {x : ℚ} (h0 : 0 ≤ x) (h : x < outOfRange) :
    place (signum s * x) = (0, signum s * x) := by
  have hneg : ¬ outOfRange ≤ -x := by linarith
  cases s
  · have : ¬ x ≤ -outOfRange := by linarith
    simp [place, signum, not_le.2 h, this]
  · simp [place, signum, not_le.2 h, hneg]

lemma place_mono {x y : ℚ} (h : x ≤ y) : toLex (place x) ≤ toLex (place y) := by
  have hpos := outOfRange_pos
  have hlt {i j : ℤ} {p q : ℚ} (hij : i < j) : toLex (i, p) ≤ toLex (j, q) :=
    Prod.Lex.toLex_le_toLex.2 (.inl hij)
  unfold place
  split_ifs with hx hy hy hx' hy hy' hy hy'
  · exact le_rfl
  · linarith
  · linarith
  · exact hlt (by decide)
  · exact le_rfl
  · exact hlt (by decide)
  · exact hlt (by decide)
  · linarith
  · exact Prod.Lex.toLex_le_toLex.2 (.inr ⟨rfl, h⟩)

lemma position?_ofRatio (s : Bool) {num den : ℕ} (hnum : 0 < num) (hden : 0 < den) :
    (ofRatio s num den).position? = some (place (signum s * nearest num den)) := by
  obtain ⟨hle, hge⟩ := divNearest_bounds hnum hden
  rw [ofRatio, if_neg hnum.ne', nearest]
  dsimp only at hle hge ⊢
  set e := exponentOf num den
  set m := divNearest (inUnits 2 num den e).1 (inUnits 2 num den e).2
  by_cases hcarry : m = significandBound
  · have hval : (m : ℚ) * 2 ^ e = 2 ^ (53 + e) := by
      rw [hcarry, cast_significandBound, pow_mul_unit]
      rfl
    have hover : outOfRange ≤ m * 2 ^ e ↔ greatestExponent < e + 1 := by
      rw [hval, outOfRange, zpow_le_zpow_iff_right₀ one_lt_two, greatestExponent]
      omega
    rw [if_pos hcarry]
    dsimp only
    by_cases hinf : greatestExponent < e + 1
    · rw [if_pos hinf, place_of_outOfRange_le s (hover.2 hinf)]
      rfl
    · have hcast : ((leastFull : ℕ) : ℚ) = 2 ^ 52 := by norm_num [leastFull]
      rw [if_neg hinf, place_of_lt_outOfRange s (by positivity) (not_le.1 (mt hover.1 hinf)),
        position?_finite, hval, hcast, mul_assoc, pow_mul_unit]
      congr 4
      push_cast
      ring
  · have hfull (h : greatestExponent < e) : 2 ^ 52 ≤ m := hge (lt_trans (by decide) h)
    have hover := outOfRange_le_mul_zpow_iff (lt_of_le_of_ne hle hcarry) hfull
    rw [if_neg hcarry]
    dsimp only
    by_cases hinf : greatestExponent < e
    · rw [if_pos hinf, place_of_outOfRange_le s (hover.2 hinf)]
      rfl
    · rw [if_neg hinf, place_of_lt_outOfRange s (by positivity) (not_le.1 (mt hover.1 hinf)),
        position?_finite, mul_assoc]

/-! ### Sums -/

/-- The number nearest to a rational one, if there were no greatest one. -/
def rounded (q : ℚ) : ℚ := if q = 0 then 0 else signum (q < 0) * nearest q.num.natAbs q.den

lemma nearest_congr {num den num' den' : ℕ} (hnum : 0 < num) (hden : 0 < den) (hnum' : 0 < num')
    (hden' : 0 < den') (h : (num : ℚ) / den = num' / den') : nearest num den = nearest num' den' :=
  le_antisymm (nearest_mono hnum hden hnum' hden' h.le) (nearest_mono hnum' hden' hnum hden h.ge)

lemma abs_eq_ratio (q : ℚ) : |q| = (q.num.natAbs : ℚ) / q.den := by
  rw [Nat.cast_natAbs, Int.cast_abs, ← abs_of_pos (a := (q.den : ℚ)) (by exact_mod_cast q.den_pos),
    ← abs_div, Rat.num_div_den]

lemma natAbs_num_pos {q : ℚ} (h : q ≠ 0) : 0 < q.num.natAbs :=
  Int.natAbs_pos.2 (Rat.num_ne_zero.2 h)

lemma rounded_of_ratio {q : ℚ} (hq : q ≠ 0) {num den : ℕ} (hden : 0 < den) (h : |q| = num / den) :
    0 < num ∧ rounded q = signum (q < 0) * nearest num den := by
  have hnum : 0 < num := by
    rcases Nat.eq_zero_or_pos num with rfl | hnum
    · simp [hq] at h
    · exact hnum
  refine ⟨hnum, ?_⟩
  rw [rounded, if_neg hq, nearest_congr (natAbs_num_pos hq) q.den_pos hnum hden]
  rw [← h, abs_eq_ratio]

/-- The sum of two finite numbers is the number nearest to their exact sum. -/
theorem position?_add_finite (s t : Bool) (m n : ℕ) (e f : ℤ) :
    ((finite s m e).add (finite t n f)).position? =
      some (place (rounded (signum s * m * 2 ^ e + signum t * n * 2 ^ f))) := by
  have hlower (h : min e f ≤ e) (h' : min e f ≤ f) :
      signum s * m * 2 ^ e + signum t * n * 2 ^ f =
        ((signedAt s m e (min e f) + signedAt t n f (min e f) : ℤ) : ℚ) * 2 ^ min e f := by
    rw [Int.cast_add, signedAt_eq _ _ _ _ h, signedAt_eq _ _ _ _ h', add_mul, mul_assoc _ (2 ^ _),
      mul_assoc _ (2 ^ _), ← zpow_add₀ two_ne_zero, ← zpow_add₀ two_ne_zero, sub_add_cancel,
      sub_add_cancel]
  rw [hlower (min_le_left e f) (min_le_right e f), add]
  set lower := min e f
  set sum := signedAt s m e lower + signedAt t n f lower
  dsimp only
  by_cases hsum : sum = 0
  · have h0 := place_of_lt_outOfRange false le_rfl outOfRange_pos
    rw [if_pos hsum, hsum, zero, position?_finite, Int.cast_zero, zero_mul, rounded, if_pos rfl]
    simpa using h0.symm
  · have hunit : (0 : ℚ) < 2 ^ lower := by positivity
    have hq : (sum : ℚ) * 2 ^ lower ≠ 0 := mul_ne_zero (by exact_mod_cast hsum) hunit.ne'
    have hsign : decide (sum < 0) = decide ((sum : ℚ) * 2 ^ lower < 0) := by
      rw [decide_eq_decide, mul_neg_iff]
      simp [hunit, not_lt.2 hunit.le]
    have hden : 0 < (inUnits 2 sum.natAbs 1 (-lower)).2 := inUnits_pos one_pos _
    obtain ⟨hnum, hrounded⟩ := rounded_of_ratio hq hden (by
      rw [inUnits_ratio, abs_mul, abs_of_pos hunit, Nat.cast_natAbs, Int.cast_abs, zpow_neg]
      simp)
    rw [if_neg hsum, position?_ofRatio _ hnum hden, hrounded, hsign]

lemma nearest_nonneg (num den : ℕ) : 0 ≤ nearest num den := by
  unfold nearest
  positivity

lemma rounded_of_neg {q : ℚ} (h : q < 0) : rounded q = -nearest q.num.natAbs q.den := by
  rw [rounded, if_neg h.ne, decide_eq_true h, signum, if_pos rfl, neg_one_mul]

lemma rounded_of_pos {q : ℚ} (h : 0 < q) : rounded q = nearest q.num.natAbs q.den := by
  rw [rounded, if_neg h.ne', decide_eq_false h.le.not_gt, signum, if_neg Bool.false_ne_true,
    one_mul]

lemma nearest_le_nearest {p q : ℚ} (hp : p ≠ 0) (hq : q ≠ 0) (h : |p| ≤ |q|) :
    nearest p.num.natAbs p.den ≤ nearest q.num.natAbs q.den := by
  apply nearest_mono (natAbs_num_pos hp) p.den_pos (natAbs_num_pos hq) q.den_pos
  rwa [← abs_eq_ratio, ← abs_eq_ratio]

/-- Rounding keeps the order of numbers. -/
theorem rounded_mono {p q : ℚ} (h : p ≤ q) : rounded p ≤ rounded q := by
  have hzero : rounded 0 = 0 := if_pos rfl
  rcases lt_trichotomy p 0 with hp | rfl | hp <;> rcases lt_trichotomy q 0 with hq | rfl | hq
  · rw [rounded_of_neg hp, rounded_of_neg hq, neg_le_neg_iff]
    apply nearest_le_nearest hq.ne hp.ne
    rw [abs_of_neg hp, abs_of_neg hq]
    exact neg_le_neg h
  · rw [rounded_of_neg hp, hzero, neg_nonpos]
    exact nearest_nonneg _ _
  · rw [rounded_of_neg hp, rounded_of_pos hq]
    exact (neg_nonpos.2 (nearest_nonneg _ _)).trans (nearest_nonneg _ _)
  · exact absurd h (not_le.2 hq)
  · exact le_rfl
  · rw [hzero, rounded_of_pos hq]
    exact nearest_nonneg _ _
  · exact absurd h (not_le.2 (hq.trans hp))
  · exact absurd h (not_le.2 hp)
  · rw [rounded_of_pos hp, rounded_of_pos hq]
    apply nearest_le_nearest hp.ne' hq.ne'
    rwa [abs_of_pos hp, abs_of_pos hq]

/-- A number is rounded to itself. -/
theorem rounded_eq (s : Bool) {m : ℕ} {e : ℤ} (hm : m < 2 ^ 53) (he : leastExponent ≤ e) :
    rounded (signum s * m * 2 ^ e) = signum s * m * 2 ^ e := by
  rcases Nat.eq_zero_or_pos m with rfl | hpos
  · simp [rounded]
  · have hval : (0 : ℚ) < m * 2 ^ e := by positivity
    rw [mul_assoc]
    cases s
    · rw [signum, if_neg Bool.false_ne_true, one_mul, rounded_of_pos hval]
      apply nearest_eq (Rat.den_pos _) hpos hm he
      rw [← abs_eq_ratio, abs_of_pos hval]
    · rw [signum, if_pos rfl, neg_one_mul, rounded_of_neg (neg_neg_of_pos hval)]
      congr 1
      apply nearest_eq (Rat.den_pos _) hpos hm he
      rw [← abs_eq_ratio, abs_neg, abs_of_pos hval]

end ControlSurface.Binary64
