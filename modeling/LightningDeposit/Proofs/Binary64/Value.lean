import LightningDeposit.Proofs.Binary64.Rounding
import Mathlib.Data.Rat.Cast.Order
import Mathlib.Tactic.FieldSimp

/-!
Doubles as exact rationals. A product or a quotient of positive doubles is a rounding of the exact
one unless it is subnormal or too large, and the ceiling of a double is exact.
-/

namespace LightningDeposit.Binary64

/-- The rational that a finite double is. -/
def value (x : Binary64) : ℚ :=
  (if x.negative then -1 else 1) * ((x.units : ℚ) / one)

/-- Within one part in `2 ^ 53` of an exact value. -/
def IsRounding (x : Binary64) (exact : ℚ) : Prop :=
  (1 - 1 / 2 ^ 53) * exact ≤ x.value ∧ x.value ≤ (1 + 1 / 2 ^ 53) * exact

variable {x y : Binary64}

theorem cast_one_pos : (0 : ℚ) < one := by
  exact_mod_cast one_pos

theorem value_of_nonneg (h : x.negative = false) : x.value = (x.units : ℚ) / one := by
  rw [value, h, if_neg Bool.false_ne_true, one_mul]

theorem isPositiveFinite_iff : x.isPositiveFinite = true ↔
    x.isFinite = true ∧ x.negative = false ∧ x.isZero = false := by
  simp [isPositiveFinite, and_assoc]

theorem value_pos (h : x.isPositiveFinite = true) : 0 < x.value := by
  obtain ⟨-, hsign, hzero⟩ := isPositiveFinite_iff.mp h
  rw [value_of_nonneg hsign]
  have hunits : (0 : ℚ) < x.units := by exact_mod_cast units_pos hzero
  exact div_pos hunits cast_one_pos

/-- A double is finite, infinite or not a number. -/
theorem isFinite_of_cases (hnan : x.isNaN = false) (hinf : x.isInfinite = false) :
    x.isFinite = true := by
  have hmag := x.magnitude_lt
  simp only [isNaN, isInfinite, decide_eq_false_iff_not] at hnan hinf
  rw [isFinite, decide_eq_true_eq]
  simp only [exponentField, Nat.pow_eq] at hnan hinf ⊢
  omega

theorem not_isFinite_nan : nan.isFinite = false := by
  decide

theorem not_isFinite_infinity (negative : Bool) : (infinity negative).isFinite = false := by
  cases negative <;> decide

section Nearest

variable {num den : ℕ}

theorem isRounding_nearest (hden : 0 < den) (hnormal : 2 ^ 52 * den ≤ num)
    (h : (nearest false num den).isFinite = true) :
    (nearest false num den).IsRounding ((num : ℚ) / den / one) := by
  obtain ⟨hhigh, hlow⟩ := units_nearest_error hden hnormal h
  have hden' : (0 : ℚ) < den := by exact_mod_cast hden
  have hone := cast_one_pos
  rw [IsRounding, value_of_nonneg negative_nearest]
  generalize (nearest false num den).units = u at hhigh hlow ⊢
  have hhigh' : (2 : ℚ) ^ 53 * (u * den) ≤ (2 ^ 53 + 1) * num := by exact_mod_cast hhigh
  have hlow' : ((2 : ℚ) ^ 53 - 1) * num ≤ 2 ^ 53 * (u * den) := by
    have hcast : ((2 ^ 53 - 1 : ℕ) : ℚ) * num ≤ 2 ^ 53 * (u * den) := by exact_mod_cast hlow
    norm_num at hcast ⊢
    exact hcast
  constructor
  · rw [← mul_div_assoc, div_le_div_iff_of_pos_right hone, ← mul_div_assoc, div_le_iff₀ hden']
    linarith
  · rw [← mul_div_assoc, div_le_div_iff_of_pos_right hone, ← mul_div_assoc, le_div_iff₀ hden']
    linarith

end Nearest

theorem negative_ofNat (n : ℕ) : (ofNat n).negative = false := negative_nearest

theorem isFinite_ofNat {n : ℕ} (h : n < 2 ^ 53) : (ofNat n).isFinite = true :=
  isFinite_nearest_of_lt (Nat.mul_lt_mul_of_pos_right h one_pos)

/-- Whole numbers below `2 ^ 53` are doubles. -/
theorem value_ofNat {n : ℕ} (h : n < 2 ^ 53) : (ofNat n).value = n := by
  have hlt : n * one < 2 ^ 53 * one := Nat.mul_lt_mul_of_pos_right h one_pos
  have hunits : (ofNat n).units = n * one :=
    units_nearest_of_dvd (isFinite_ofNat h)
      (Dvd.dvd.mul_left (two_pow_stepScale_dvd_one hlt) n)
  rw [value_of_nonneg (negative_ofNat n), hunits, Nat.cast_mul,
    mul_div_cancel_right₀ _ cast_one_pos.ne']

theorem isRounding_ofNat {n : ℕ} (hn : 0 < n) (h : (ofNat n).isFinite = true) :
    (ofNat n).IsRounding n := by
  have hnormal : 2 ^ 52 * 1 ≤ n * one := by
    rw [Nat.mul_one]
    exact two_pow_le_one.trans (Nat.le_mul_of_pos_left one hn)
  have hround := isRounding_nearest Nat.one_pos hnormal h
  have hone := cast_one_pos.ne'
  rwa [Nat.cast_one, div_one, Nat.cast_mul, mul_div_cancel_right₀ _ hone] at hround

/-- A finite product has finite factors and is rounded once. -/
theorem mul_eq_nearest (h : (x.mul y).isFinite = true) : x.isFinite = true ∧ y.isFinite = true ∧
    x.mul y = nearest (x.negative != y.negative) (x.units * y.units) one := by
  unfold mul at h ⊢
  simp only at h ⊢
  split at h
  · simp [not_isFinite_nan] at h
  next hnan =>
    split at h
    · split at h
      · simp [not_isFinite_nan] at h
      · simp [not_isFinite_infinity] at h
    next hinf =>
      simp only [Bool.or_eq_true, not_or, Bool.not_eq_true] at hnan hinf
      exact ⟨isFinite_of_cases hnan.1 hinf.1, isFinite_of_cases hnan.2 hinf.2,
        by simp [hnan, hinf]⟩

/-- A finite quotient by a finite number other than zero has a finite dividend and is rounded
once. -/
theorem div_eq_nearest (hy : y.isFinite = true) (hy0 : y.isZero = false)
    (h : (x.div y).isFinite = true) : x.isFinite = true ∧
      x.div y = nearest (x.negative != y.negative) (x.units * one) y.units := by
  have hynan := isNaN_of_isFinite hy
  have hyinf := isInfinite_of_isFinite hy
  unfold div at h ⊢
  simp only [hynan, hyinf, hy0, Bool.or_false, Bool.false_eq_true, ↓reduceIte] at h ⊢
  split at h
  · simp [not_isFinite_nan] at h
  next hnan =>
    split at h
    · simp [not_isFinite_infinity] at h
    next hinf =>
      simp only [Bool.not_eq_true] at hnan hinf
      exact ⟨isFinite_of_cases hnan hinf, by simp [hnan, hinf]⟩

theorem negative_mul (hx : x.negative = false) (hy : y.negative = false)
    (h : (x.mul y).isFinite = true) : (x.mul y).negative = false := by
  rw [(mul_eq_nearest h).2.2, negative_nearest, hx, hy]
  rfl

theorem negative_div (hx : x.negative = false) (hy : y.isPositiveFinite = true)
    (h : (x.div y).isFinite = true) : (x.div y).negative = false := by
  obtain ⟨hyfin, hysign, hy0⟩ := isPositiveFinite_iff.mp hy
  rw [(div_eq_nearest hyfin hy0 h).2, negative_nearest, hx, hysign]
  rfl

theorem isRounding_mul (hx : x.negative = false) (hy : y.negative = false)
    (hnormal : 1 ≤ x.value * y.value) (h : (x.mul y).isFinite = true) :
    (x.mul y).IsRounding (x.value * y.value) := by
  obtain ⟨-, -, hmul⟩ := mul_eq_nearest h
  have hone := cast_one_pos
  rw [hx, hy, bne_self_eq_false] at hmul
  rw [hmul] at h ⊢
  rw [value_of_nonneg hx, value_of_nonneg hy] at hnormal ⊢
  have hexact : (x.units : ℚ) / one * (y.units / one) =
      ((x.units * y.units : ℕ) : ℚ) / one / one := by
    push_cast
    field_simp
  rw [hexact] at hnormal ⊢
  rw [le_div_iff₀ hone, le_div_iff₀ hone, one_mul] at hnormal
  refine isRounding_nearest one_pos (le_trans ?_ (by exact_mod_cast hnormal)) h
  exact Nat.mul_le_mul_right one two_pow_le_one

/-- A dividend of four or more is enough to keep a quotient from being subnormal. -/
theorem isRounding_div (hx : x.negative = false) (hy : y.isPositiveFinite = true)
    (hlarge : 4 ≤ x.value) (h : (x.div y).isFinite = true) :
    (x.div y).IsRounding (x.value / y.value) := by
  obtain ⟨hyfin, hysign, hy0⟩ := isPositiveFinite_iff.mp hy
  obtain ⟨-, hdiv⟩ := div_eq_nearest hyfin hy0 h
  have hone := cast_one_pos
  rw [hx, hysign, bne_self_eq_false] at hdiv
  rw [hdiv] at h ⊢
  rw [value_of_nonneg hx] at hlarge ⊢
  rw [value_of_nonneg hysign]
  have hunits : (y.units : ℚ) ≠ 0 := by exact_mod_cast (units_pos hy0).ne'
  have hexact : (x.units : ℚ) / one / (y.units / one) =
      ((x.units * one : ℕ) : ℚ) / y.units / one := by
    push_cast
    field_simp
  rw [hexact]
  have hlarge' : 4 * one ≤ x.units := by
    rw [le_div_iff₀ hone] at hlarge
    exact_mod_cast hlarge
  refine isRounding_nearest (units_pos hy0) ?_ h
  calc 2 ^ 52 * y.units ≤ 4 * (one * one) := (units_lt hyfin).le
    _ = 4 * one * one := (Nat.mul_assoc 4 one one).symm
    _ ≤ x.units * one := Nat.mul_le_mul_right one hlarge'

theorem units_congr (h : x.magnitude = y.magnitude) : x.units = y.units := by
  simp [units, significand, scale, exponentField, fraction, h]

theorem isFinite_of_ceil (h : x.ceil.isFinite = true) : x.isFinite = true := by
  by_contra hnot
  rw [Bool.not_eq_true] at hnot
  simp [ceil, hnot] at h

theorem ceil_eq_nearest (hx : x.negative = false) (h : x.isFinite = true) :
    x.ceil = nearest false ((x.units + (one - 1)) / one * one) 1 := by
  simp [ceil, h, hx]

theorem negative_ceil (hx : x.negative = false) (h : x.isFinite = true) :
    x.ceil.negative = false := by
  rw [ceil_eq_nearest hx h, negative_nearest]

/-- The next whole multiple of one is within the reach of exact doubles, or the number itself. -/
theorem nextWhole_cases (x : Binary64) : (x.units + (one - 1)) / one * one < 2 ^ 53 * one ∨
    (x.units + (one - 1)) / one * one = x.units := by
  obtain ⟨k, -, hone⟩ := exists_one_eq
  have hpos := one_pos
  obtain ⟨steps, -, hsteps, -, hunits⟩ := x.units_eq
  rcases Nat.lt_or_ge x.scale k with hsmall | hlarge
  · left
    have hbound : x.units ≤ 2 ^ 52 * one := by
      calc x.units ≤ 2 ^ 53 * 2 ^ x.scale := by
            rw [hunits]
            exact Nat.mul_le_mul_right _ hsteps.le
        _ = 2 ^ 52 * 2 ^ (x.scale + 1) := by ring
        _ ≤ 2 ^ 52 * one := by
            rw [hone]
            exact Nat.mul_le_mul_left _ (Nat.pow_le_pow_right (by omega) hsmall)
    have hwhole : (x.units + (one - 1)) / one ≤ 2 ^ 52 := by
      rw [← Nat.lt_succ_iff, Nat.div_lt_iff_lt_mul hpos, Nat.succ_mul]
      omega
    exact Nat.mul_lt_mul_of_pos_right (by omega) hpos
  · -- From there on every double is a whole number.
    right
    have hdvd : one ∣ x.units := by
      rw [hone, hunits]
      exact Dvd.dvd.mul_left (Nat.pow_dvd_pow 2 hlarge) steps
    obtain ⟨n, hn⟩ := hdvd
    have hlast : (one - 1) / one = 0 := Nat.div_eq_of_lt (by omega)
    rw [hn, Nat.mul_add_div hpos, hlast, Nat.add_zero, Nat.mul_comm]

theorem isFinite_ceil (hx : x.negative = false) (h : x.isFinite = true) :
    x.ceil.isFinite = true := by
  rw [ceil_eq_nearest hx h]
  rcases x.nextWhole_cases with hlt | hself
  · exact isFinite_nearest_of_lt hlt
  · rw [hself, isFinite_iff, magnitude_nearest, nearestMagnitude_units h]
    exact (isFinite_iff x).mp h

/-- The units of a ceiling are the next whole multiple of one. -/
theorem units_ceil (hx : x.negative = false) (h : x.ceil.isFinite = true) :
    x.ceil.units = (x.units + (one - 1)) / one * one := by
  have hfin := isFinite_of_ceil h
  rw [ceil_eq_nearest hx hfin] at h ⊢
  rcases x.nextWhole_cases with hlt | hself
  · exact units_nearest_of_dvd h (Dvd.dvd.mul_left (two_pow_stepScale_dvd_one hlt) _)
  · rw [hself]
    exact units_congr (magnitude_nearest.trans (nearestMagnitude_units hfin))

/-- The ceiling is the least whole number that is not below. -/
theorem wholePart_ceil_le_iff (hx : x.negative = false) (h : x.ceil.isFinite = true) (n : ℕ) :
    x.ceil.wholePart ≤ n ↔ x.value ≤ n := by
  have hpos := one_pos
  rw [wholePart, units_ceil hx h, Nat.mul_div_cancel _ hpos, value_of_nonneg hx,
    div_le_iff₀ cast_one_pos, ← Nat.cast_mul, Nat.cast_le, ← Nat.lt_succ_iff,
    Nat.div_lt_iff_lt_mul hpos, Nat.succ_mul]
  omega

theorem toNat_toWord (h : x.isFinite = true) (hx : x.negative = false) :
    x.toWord.toNat = min x.wholePart (2 ^ 64 - 1) := by
  have hle : min x.wholePart (2 ^ 64 - 1) ≤ 2 ^ 64 - 1 := min_le_right _ _
  rw [toWord, isNaN_of_isFinite h, hx, h, show UInt64.size = 2 ^ 64 from rfl]
  simp only [Bool.or_self, Bool.false_eq_true, ↓reduceIte, UInt64.toNat_ofNat']
  exact Nat.mod_eq_of_lt (by omega)

end LightningDeposit.Binary64
