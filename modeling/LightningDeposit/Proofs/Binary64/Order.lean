import LightningDeposit.Proofs.Binary64.Value
import Mathlib.Data.Rat.Floor

/-!
The order of doubles, and which results are numbers at all. Of two doubles the one with the larger
magnitude counts more units, so comparing doubles compares their values. A rounded ratio is a number
or infinite, and the ceiling of a finite double is finite.
-/

namespace LightningDeposit.Binary64

variable {x y : Binary64}

theorem units_lt_of_magnitude_lt (h : x.magnitude < y.magnitude) : x.units < y.units := by
  obtain ⟨steps, hx, hsteps, hmin, hunits⟩ := x.units_eq
  obtain ⟨steps', hy, hsteps', hmin', hunits'⟩ := y.units_eq
  rw [hunits, hunits']
  rcases Nat.lt_trichotomy x.scale y.scale with hlt | heq | hgt
  · -- One binade further up the fewest steps are more than the most of this one.
    have hnormal : 2 ^ 52 ≤ steps' := by omega
    calc steps * 2 ^ x.scale < 2 ^ 53 * 2 ^ x.scale :=
          Nat.mul_lt_mul_of_pos_right hsteps (Nat.two_pow_pos _)
      _ = 2 ^ 52 * 2 ^ (x.scale + 1) := by ring
      _ ≤ steps' * 2 ^ y.scale :=
          Nat.mul_le_mul hnormal (Nat.pow_le_pow_right (by omega) hlt)
  · have hless : steps < steps' := by
      rw [heq] at hx
      omega
    rw [heq]
    exact Nat.mul_lt_mul_of_pos_right hless (Nat.two_pow_pos _)
  · have hnormal : 2 ^ 52 ≤ steps := by omega
    omega

theorem units_le_iff : x.units ≤ y.units ↔ x.magnitude ≤ y.magnitude := by
  constructor
  · intro h
    by_contra hnot
    exact absurd (units_lt_of_magnitude_lt (Nat.lt_of_not_le hnot)) (Nat.not_lt.mpr h)
  · intro h
    rcases Nat.lt_or_eq_of_le h with hlt | heq
    · exact (units_lt_of_magnitude_lt hlt).le
    · exact (units_congr heq).le

/-- Comparing doubles that are not negative compares their values. -/
theorem le_iff (hx : x.negative = false) (hy : y.negative = false) (hxfin : x.isFinite = true)
    (hyfin : y.isFinite = true) : x.le y = true ↔ x.value ≤ y.value := by
  rw [value_of_nonneg hx, value_of_nonneg hy, div_le_div_iff_of_pos_right cast_one_pos,
    Nat.cast_le, units_le_iff]
  simp [le, rank, isNaN_of_isFinite hxfin, isNaN_of_isFinite hyfin, hx, hy]

/-- Positive and finite is what it says. -/
theorem isPositiveFinite_iff_value : x.isPositiveFinite = true ↔
    x.isFinite = true ∧ 0 < x.value := by
  constructor
  · intro h
    exact ⟨(isPositiveFinite_iff.mp h).1, value_pos h⟩
  · rintro ⟨hfin, hpos⟩
    have hsign : x.negative = false := by
      by_contra hneg
      rw [Bool.not_eq_false] at hneg
      have hquot : 0 ≤ (x.units : ℚ) / one := div_nonneg (Nat.cast_nonneg _) cast_one_pos.le
      rw [value, hneg, if_pos rfl] at hpos
      linarith
    have hzero : x.isZero = false := by
      by_contra hzero
      rw [Bool.not_eq_false, isZero, decide_eq_true_eq] at hzero
      have hunits : x.units = 0 := by
        simp [units, significand, exponentField, fraction, hzero]
      rw [value_of_nonneg hsign, hunits, Nat.cast_zero, zero_div] at hpos
      exact lt_irrefl _ hpos
    exact isPositiveFinite_iff.mpr ⟨hfin, hsign, hzero⟩

theorem not_isZero_of_isInfinite (h : x.isInfinite = true) : x.isZero = false := by
  rw [isInfinite, decide_eq_true_eq, exponentField] at h
  rw [isZero, decide_eq_false_iff_not]
  intro hzero
  rw [hzero, Nat.zero_div] at h
  omega

theorem not_isFinite_of_isInfinite (h : x.isInfinite = true) : x.isFinite = false := by
  simp only [isInfinite, decide_eq_true_eq] at h
  simp only [isFinite, decide_eq_false_iff_not]
  omega

theorem isNaN_infinity (negative : Bool) : (infinity negative).isNaN = false := by
  cases negative <;> decide

/-- Rounding never leads past infinity. -/
theorem isNaN_nearest (negative : Bool) (num den : ℕ) :
    (nearest negative num den).isNaN = false := by
  have hle : nearestMagnitude num den ≤ infiniteMagnitude := by
    rw [nearestMagnitude_eq]
    exact min_le_left _ _
  simp only [isNaN, exponentField, fraction, magnitude_nearest, Nat.pow_eq, decide_eq_false_iff_not]
  rw [infiniteMagnitude, Nat.pow_eq] at hle
  omega

theorem isNaN_mul (hx : x.isNaN = false) (hy : y.isFinite = true) (hzero : y.isZero = false) :
    (x.mul y).isNaN = false := by
  have hynan := isNaN_of_isFinite hy
  have hyinf := isInfinite_of_isFinite hy
  simp only [mul, hx, hynan, hyinf, hzero, Bool.or_false, Bool.false_eq_true, ↓reduceIte]
  split
  next hinf =>
    rw [if_neg (by simp [not_isZero_of_isInfinite hinf])]
    exact isNaN_infinity _
  next => exact isNaN_nearest _ _ _

theorem isNaN_div (hx : x.isNaN = false) (hy : y.isFinite = true) (hzero : y.isZero = false) :
    (x.div y).isNaN = false := by
  have hynan := isNaN_of_isFinite hy
  have hyinf := isInfinite_of_isFinite hy
  simp only [div, hx, hynan, hyinf, hzero, Bool.or_false, Bool.false_eq_true, ↓reduceIte]
  split
  · exact isNaN_infinity _
  · exact isNaN_nearest _ _ _

/-- The ceiling of a double is the ceiling of its value. -/
theorem wholePart_ceil (hx : x.negative = false) (h : x.isFinite = true) :
    x.ceil.wholePart = ⌈x.value⌉₊ := by
  have hleast := wholePart_ceil_le_iff hx (isFinite_ceil hx h)
  apply Nat.le_antisymm
  · exact (hleast _).mpr (Nat.le_ceil _)
  · exact Nat.ceil_le.mpr ((hleast _).mp (Nat.le_refl _))

theorem value_ceil (hx : x.negative = false) (h : x.isFinite = true) :
    x.ceil.value = ⌈x.value⌉₊ := by
  rw [value_of_nonneg (negative_ceil hx h), ← wholePart_ceil hx h, wholePart,
    units_ceil hx (isFinite_ceil hx h), Nat.mul_div_cancel _ one_pos, Nat.cast_mul,
    mul_div_cancel_right₀ _ cast_one_pos.ne']

theorem ceil_of_not_isFinite (h : x.isFinite = false) : x.ceil = x := by
  simp [ceil, h]

end LightningDeposit.Binary64
