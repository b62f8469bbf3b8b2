import LightningDeposit.Binary64.Arithmetic
import Mathlib.Data.Nat.Basic
import Mathlib.Tactic.Linarith
import Mathlib.Tactic.Ring

/-!
Rounding to doubles, counted in units. The double nearest to a ratio of units is off by at most half
a step of its binade, so by at most one part in `2 ^ 53` of a ratio that is no subnormal, and a
ratio that is a double by itself is not changed.
-/

namespace LightningDeposit.Binary64

/-- The number of units in one with its exponent under a name, which keeps it from being
evaluated. -/
theorem exists_one_eq : ∃ k, k = 1074 ∧ one = 2 ^ k := by
  obtain ⟨k, hk⟩ : ∃ k, k = 1074 := ⟨_, rfl⟩
  refine ⟨k, hk, ?_⟩
  unfold one
  rw [← hk, Nat.pow_eq]

theorem one_pos : 0 < one := by
  obtain ⟨k, -, hone⟩ := exists_one_eq
  rw [hone]
  exact Nat.two_pow_pos k

theorem two_pow_le_one : 2 ^ 52 ≤ one := by
  obtain ⟨k, hk, hone⟩ := exists_one_eq
  rw [hone]
  exact Nat.pow_le_pow_right (by omega) (by omega)

section Bits

variable {negative : Bool} {m : ℕ}

theorem bits_ofMagnitude (h : m < 2 ^ 63) :
    (ofMagnitude negative m).bits.toNat = (if negative then 2 ^ 63 else 0) + m := by
  simp only [ofMagnitude, Nat.pow_eq, UInt64.toNat_ofNat']
  apply Nat.mod_eq_of_lt
  split <;> omega

theorem magnitude_ofMagnitude (h : m < 2 ^ 63) : (ofMagnitude negative m).magnitude = m := by
  rw [magnitude, Nat.pow_eq, bits_ofMagnitude h]
  split <;> omega

theorem negative_ofMagnitude (h : m < 2 ^ 63) : (ofMagnitude negative m).negative = negative := by
  rw [Binary64.negative, bits_ofMagnitude h]
  cases negative with
  | false => simpa using h
  | true => simp

theorem magnitude_lt (x : Binary64) : x.magnitude < 2 ^ 63 :=
  Nat.mod_lt _ (Nat.two_pow_pos 63)

theorem isFinite_iff (x : Binary64) : x.isFinite = true ↔ x.magnitude < infiniteMagnitude := by
  rw [isFinite, decide_eq_true_eq, exponentField, infiniteMagnitude, Nat.pow_eq]
  omega

theorem isFinite_of_magnitude_le {x y : Binary64} (h : x.magnitude ≤ y.magnitude)
    (hy : y.isFinite = true) : x.isFinite = true := by
  rw [isFinite_iff] at hy ⊢
  exact h.trans_lt hy

theorem isNaN_of_isFinite {x : Binary64} (h : x.isFinite = true) : x.isNaN = false := by
  simp only [isFinite, decide_eq_true_eq] at h
  simp only [isNaN, decide_eq_false_iff_not]
  omega

theorem isInfinite_of_isFinite {x : Binary64} (h : x.isFinite = true) :
    x.isInfinite = false := by
  simp only [isFinite, decide_eq_true_eq] at h
  simp only [isInfinite, decide_eq_false_iff_not]
  omega

end Bits

/-- A magnitude that is put together from a step size and a number of steps counts that many
steps; a number of steps that has carried into the next binade counts too. -/
theorem units_of_magnitude {x : Binary64} {scale steps : ℕ}
    (hx : x.magnitude = scale * 2 ^ 52 + steps) (hmax : steps ≤ 2 ^ 53)
    (hmin : scale = 0 ∨ 2 ^ 52 ≤ steps) : x.units = steps * 2 ^ scale := by
  rcases Nat.lt_or_ge steps (2 ^ 52) with hsub | hnormal
  · have hscale : scale = 0 := by omega
    have hfield : x.exponentField = 0 := by rw [exponentField, Nat.pow_eq, hx]; omega
    have hfraction : x.fraction = steps := by rw [fraction, Nat.pow_eq, hx]; omega
    simp [units, significand, Binary64.scale, hfield, hfraction, hscale]
  rcases Nat.lt_or_ge steps (2 ^ 53) with hin | hcarry
  · have hfield : x.exponentField = scale + 1 := by rw [exponentField, Nat.pow_eq, hx]; omega
    have hfraction : x.fraction = steps - 2 ^ 52 := by rw [fraction, Nat.pow_eq, hx]; omega
    have hsignificand : 2 ^ 52 + (steps - 2 ^ 52) = steps := by omega
    simp only [units, significand, Binary64.scale, Nat.pow_eq, hfield, hfraction]
    rw [if_neg (by omega), hsignificand, Nat.add_sub_cancel]
  · have hsteps : steps = 2 ^ 53 := by omega
    have hfield : x.exponentField = scale + 2 := by rw [exponentField, Nat.pow_eq, hx]; omega
    have hfraction : x.fraction = 0 := by rw [fraction, Nat.pow_eq, hx]; omega
    simp only [units, significand, Binary64.scale, Nat.pow_eq, hfield, hfraction, hsteps]
    rw [if_neg (by omega), show scale + 2 - 1 = scale + 1 by omega, Nat.pow_succ]
    omega

/-- A magnitude is put together from the scale and the significand. -/
theorem units_eq (x : Binary64) : ∃ steps, x.magnitude = x.scale * 2 ^ 52 + steps ∧
    steps < 2 ^ 53 ∧ (x.scale = 0 ∨ 2 ^ 52 ≤ steps) ∧ x.units = steps * 2 ^ x.scale := by
  have hmag : x.magnitude = x.exponentField * 2 ^ 52 + x.fraction := (Nat.div_add_mod' _ _).symm
  have hfraction : x.fraction < 2 ^ 52 := Nat.mod_lt _ (Nat.two_pow_pos 52)
  refine ⟨x.significand, ?_, ?_, ?_, rfl⟩ <;> rw [significand, Nat.pow_eq]
  · unfold scale
    rw [hmag]
    split
    · omega
    · rw [← Nat.add_assoc, ← Nat.succ_mul]
      omega
  · split <;> omega
  · unfold scale
    split <;> omega

/-- Finite numbers stay below `2 ^ 1024`, which is a quarter of the square of the number of units in
one over `2 ^ 52`. -/
theorem units_lt {x : Binary64} (h : x.isFinite = true) : 2 ^ 52 * x.units < 4 * (one * one) := by
  obtain ⟨k, hk, hone⟩ := exists_one_eq
  obtain ⟨steps, -, hsteps, -, hunits⟩ := x.units_eq
  have hscale : x.scale ≤ 2045 := by
    rw [isFinite, decide_eq_true_eq] at h
    unfold scale
    omega
  calc 2 ^ 52 * x.units < 2 ^ 52 * (2 ^ 53 * 2 ^ x.scale) := by
        rw [hunits]
        exact Nat.mul_lt_mul_of_pos_left
          (Nat.mul_lt_mul_of_pos_right hsteps (Nat.two_pow_pos _)) (Nat.two_pow_pos 52)
    _ = 2 ^ (105 + x.scale) := by rw [← Nat.mul_assoc, ← Nat.pow_add, ← Nat.pow_add]
    _ ≤ 2 ^ (2 + (k + k)) := Nat.pow_le_pow_right (by omega) (by omega)
    _ = 4 * (one * one) := by rw [Nat.pow_add, Nat.pow_add, hone]

theorem units_pos {x : Binary64} (h : x.isZero = false) : 0 < x.units := by
  obtain ⟨steps, hx, -, hmin, hunits⟩ := x.units_eq
  have hne : x.magnitude ≠ 0 := by simpa [isZero] using h
  have hsteps : 0 < steps := by rcases hmin with h0 | h1 <;> omega
  rw [hunits]
  exact Nat.mul_pos hsteps (Nat.two_pow_pos _)

section RoundHalfEven

theorem roundHalfEven_bounds (num den : ℕ) :
    num / den ≤ roundHalfEven num den ∧ roundHalfEven num den ≤ num / den + 1 := by
  unfold roundHalfEven
  simp only
  split <;> [skip; split] <;> omega

theorem roundHalfEven_mul (k : ℕ) {den : ℕ} (hden : 0 < den) : roundHalfEven (k * den) den = k := by
  simp [roundHalfEven, Nat.mul_div_cancel k hden, hden]

/-- Rounding to an integer is off by at most a half. -/
theorem roundHalfEven_error (num : ℕ) {den : ℕ} (hden : 0 < den) :
    2 * (roundHalfEven num den * den) ≤ 2 * num + den ∧
      2 * num ≤ 2 * (roundHalfEven num den * den) + den := by
  have hdiv := Nat.div_add_mod num den
  have hmod := Nat.mod_lt num hden
  unfold roundHalfEven
  simp only
  generalize num / den = q at *
  generalize num % den = r at *
  have hparity : q % 2 = 0 ∨ q % 2 = 1 := by omega
  split
  · constructor <;> nlinarith
  split
  · constructor <;> nlinarith
  · rcases hparity with hq | hq <;> rw [hq] <;> constructor <;> nlinarith

end RoundHalfEven

section Nearest

variable {negative : Bool} {num den : ℕ}

/-- The step size, as a power of two, in the binade of a ratio. -/
def stepScale (num den : ℕ) : ℕ := Nat.log2 (num / den) - 52

def nearestSteps (num den : ℕ) : ℕ := roundHalfEven num (den * 2 ^ stepScale num den)

theorem nearestSteps_le (num den : ℕ) : nearestSteps num den ≤ 2 ^ 53 := by
  have hbounds := (roundHalfEven_bounds num (den * 2 ^ stepScale num den)).2
  have hlog : num / den < 2 ^ (53 + stepScale num den) :=
    (Nat.lt_log2_self).trans_le (Nat.pow_le_pow_right (by omega) (by unfold stepScale; omega))
  have hquot : num / (den * 2 ^ stepScale num den) < 2 ^ 53 := by
    rw [← Nat.div_div_eq_div_mul]
    exact Nat.div_lt_of_lt_mul (by rwa [← Nat.pow_add, Nat.add_comm])
  unfold nearestSteps
  omega

/-- Above the subnormals the leading bit of the number of steps is set. -/
theorem le_nearestSteps (h : 2 ^ 52 ≤ num / den) : 2 ^ 52 ≤ nearestSteps num den := by
  have hne : num / den ≠ 0 := by have := Nat.two_pow_pos 52; omega
  have hlog : 52 ≤ Nat.log2 (num / den) := (Nat.le_log2 hne).mpr h
  have hself := Nat.log2_self_le hne
  have hquot : 2 ^ 52 ≤ num / (den * 2 ^ stepScale num den) := by
    rw [← Nat.div_div_eq_div_mul, Nat.le_div_iff_mul_le (Nat.two_pow_pos _), ← Nat.pow_add]
    rwa [show 52 + stepScale num den = Nat.log2 (num / den) by unfold stepScale; omega]
  exact hquot.trans (roundHalfEven_bounds _ _).1

theorem nearestSteps_scale : stepScale num den = 0 ∨ 2 ^ 52 ≤ nearestSteps num den := by
  rcases Nat.lt_or_ge (num / den) (2 ^ 52) with hsmall | hlarge
  · left
    rcases Nat.eq_zero_or_pos (num / den) with h0 | hpos
    · simp [stepScale, h0]
    · have := (Nat.log2_lt (by omega)).mpr hsmall
      unfold stepScale
      omega
  · exact .inr (le_nearestSteps hlarge)

theorem nearestMagnitude_eq (num den : ℕ) : nearestMagnitude num den =
    min infiniteMagnitude (stepScale num den * 2 ^ 52 + nearestSteps num den) := rfl

theorem nearestMagnitude_lt (num den : ℕ) : nearestMagnitude num den < 2 ^ 63 :=
  (min_le_left _ _).trans_lt (by decide)

theorem magnitude_nearest : (nearest negative num den).magnitude = nearestMagnitude num den :=
  magnitude_ofMagnitude (nearestMagnitude_lt num den)

theorem negative_nearest : (nearest negative num den).negative = negative :=
  negative_ofMagnitude (nearestMagnitude_lt num den)

/-- A nearest double that is finite counts the steps of the ratio. -/
theorem units_nearest (h : (nearest negative num den).isFinite = true) :
    (nearest negative num den).units = nearestSteps num den * 2 ^ stepScale num den := by
  have hlt : nearestMagnitude num den < infiniteMagnitude := by
    rwa [isFinite_iff, magnitude_nearest] at h
  have hmag : (nearest negative num den).magnitude =
      stepScale num den * 2 ^ 52 + nearestSteps num den := by
    rw [magnitude_nearest, nearestMagnitude_eq]
    rw [nearestMagnitude_eq] at hlt
    omega
  exact units_of_magnitude hmag (nearestSteps_le num den) nearestSteps_scale

/-- A nearest double is off by at most one part in `2 ^ 53`, unless it is subnormal. -/
theorem units_nearest_error (hden : 0 < den) (hnormal : 2 ^ 52 * den ≤ num)
    (h : (nearest negative num den).isFinite = true) :
    2 ^ 53 * ((nearest negative num den).units * den) ≤ (2 ^ 53 + 1) * num ∧
      (2 ^ 53 - 1) * num ≤ 2 ^ 53 * ((nearest negative num den).units * den) := by
  have hquot : 2 ^ 52 ≤ num / den := (Nat.le_div_iff_mul_le hden).mpr hnormal
  have hne : num / den ≠ 0 := by have := Nat.two_pow_pos 52; omega
  have hlog : 52 ≤ Nat.log2 (num / den) := (Nat.le_log2 hne).mpr hquot
  have hstep : 2 ^ 52 * (den * 2 ^ stepScale num den) ≤ num := by
    have hself := Nat.log2_self_le hne
    rw [show Nat.log2 (num / den) = 52 + stepScale num den by unfold stepScale; omega,
      Nat.pow_add] at hself
    calc 2 ^ 52 * (den * 2 ^ stepScale num den) = 2 ^ 52 * 2 ^ stepScale num den * den := by ring
      _ ≤ num / den * den := Nat.mul_le_mul_right den hself
      _ ≤ num := Nat.div_mul_le_self num den
  obtain ⟨hhigh, hlow⟩ := roundHalfEven_error num
    (Nat.mul_pos hden (Nat.two_pow_pos (stepScale num den)))
  have hunits : (nearest negative num den).units * den =
      roundHalfEven num (den * 2 ^ stepScale num den) * (den * 2 ^ stepScale num den) := by
    rw [units_nearest h, nearestSteps]
    ring
  rw [hunits]
  constructor <;> omega

/-- A whole number of units that is a whole number of its binade's steps is a double by itself. -/
theorem units_nearest_of_dvd {n : ℕ} (h : (nearest negative n 1).isFinite = true)
    (hdvd : 2 ^ stepScale n 1 ∣ n) : (nearest negative n 1).units = n := by
  obtain ⟨k, hk⟩ := hdvd
  have hsteps : nearestSteps n 1 = k := by
    have hround := roundHalfEven_mul k (Nat.two_pow_pos (stepScale n 1))
    rwa [Nat.mul_comm, ← hk, ← Nat.one_mul (2 ^ stepScale n 1)] at hround
  rw [units_nearest h, hsteps, Nat.mul_comm, ← hk]

theorem stepScale_le_of_lt {n k : ℕ} (hone : one = 2 ^ k) (h : n < 2 ^ 53 * one) :
    stepScale n 1 ≤ k := by
  rw [hone, ← Nat.pow_add] at h
  unfold stepScale
  rw [Nat.div_one]
  rcases Nat.eq_zero_or_pos n with h0 | hpos
  · simp [h0]
  · rw [← Nat.log2_lt hpos.ne'] at h
    omega

/-- Below `2 ^ 53` the steps are parts of one. -/
theorem two_pow_stepScale_dvd_one {n : ℕ} (h : n < 2 ^ 53 * one) : 2 ^ stepScale n 1 ∣ one := by
  obtain ⟨k, -, hone⟩ := exists_one_eq
  rw [hone]
  exact Nat.pow_dvd_pow 2 (stepScale_le_of_lt hone h)

theorem isFinite_nearest_of_lt {n : ℕ} (h : n < 2 ^ 53 * one) :
    (nearest negative n 1).isFinite = true := by
  obtain ⟨k, hk, hone⟩ := exists_one_eq
  have hscale := stepScale_le_of_lt hone h
  have hsteps := nearestSteps_le n 1
  rw [isFinite_iff, magnitude_nearest, nearestMagnitude_eq, infiniteMagnitude, Nat.pow_eq]
  omega

/-- Rounding a double changes nothing. -/
theorem nearestMagnitude_units {x : Binary64} (h : x.isFinite = true) :
    nearestMagnitude x.units 1 = x.magnitude := by
  obtain ⟨steps, hx, hmax, hmin, hunits⟩ := x.units_eq
  have hscale : stepScale x.units 1 = x.scale := by
    unfold stepScale
    rw [Nat.div_one, hunits]
    rcases Nat.lt_or_ge steps (2 ^ 52) with hsub | hnormal
    · have h0 : x.scale = 0 := by omega
      rcases Nat.eq_zero_or_pos steps with hz | hpos
      · simp [hz, h0]
      · have := (Nat.log2_lt (by omega : steps ≠ 0)).mpr hsub
        simp only [h0, Nat.pow_zero, Nat.mul_one]
        omega
    · have hlog : Nat.log2 (steps * 2 ^ x.scale) = 52 + x.scale := by
        rw [Nat.log2_eq_iff (Nat.mul_pos (by omega) (Nat.two_pow_pos _)).ne']
        constructor
        · rw [Nat.pow_add]
          exact Nat.mul_le_mul_right _ hnormal
        · rw [show 52 + x.scale + 1 = 53 + x.scale by omega, Nat.pow_add]
          exact Nat.mul_lt_mul_of_pos_right hmax (Nat.two_pow_pos _)
      omega
  have hsteps : nearestSteps x.units 1 = steps := by
    unfold nearestSteps
    rw [hscale, Nat.one_mul, hunits]
    exact roundHalfEven_mul steps (Nat.two_pow_pos _)
  rw [nearestMagnitude_eq, hscale, hsteps, ← hx]
  exact min_eq_right ((isFinite_iff x).mp h).le

end Nearest

end LightningDeposit.Binary64
