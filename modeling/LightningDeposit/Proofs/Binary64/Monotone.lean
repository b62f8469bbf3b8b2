import LightningDeposit.Proofs.Binary64.Order

/-!
Rounding keeps the order. Of two ratios of units the larger one is never rounded to the smaller double,
across binades, subnormals and the step to infinity; so a product does not shrink when a factor
grows, nor a quotient when its dividend grows or its divisor shrinks.
-/

namespace LightningDeposit.Binary64

section Ratios

variable {num den num' den' : ℕ}

/-- A ratio is rounded by its value, however it is written. -/
theorem roundHalfEven_scale (num den : ℕ) {c : ℕ} (hc : 0 < c) :
    roundHalfEven (num * c) (den * c) = roundHalfEven num den := by
  have hrest : 2 * (num * c % (den * c)) = 2 * (num % den) * c := by
    rw [Nat.mul_mod_mul_right, Nat.mul_assoc]
  unfold roundHalfEven
  simp only [Nat.mul_div_mul_right _ _ hc, hrest, Nat.mul_lt_mul_right hc]

theorem roundHalfEven_mono (hden : 0 < den) (hden' : 0 < den') (h : num * den' ≤ num' * den) :
    roundHalfEven num den ≤ roundHalfEven num' den' := by
  apply Nat.le_of_not_lt
  intro hlt
  -- Both ratios would have to lie halfway between the two integers, and be one ratio.
  have hhigh := Nat.mul_le_mul_right den' (roundHalfEven_error num hden).1
  have hlow := Nat.mul_le_mul_right den (roundHalfEven_error num' hden').2
  have hapart := Nat.mul_le_mul_right (den * den') hlt
  have hsame : num * den' = num' * den := by
    apply Nat.le_antisymm h
    linarith
  have hround : roundHalfEven num den = roundHalfEven num' den' := by
    rw [← roundHalfEven_scale num den hden', hsame, Nat.mul_comm den den',
      roundHalfEven_scale num' den' hden]
  omega

theorem stepScale_mono (hden : 0 < den) (hden' : 0 < den') (h : num * den' ≤ num' * den) :
    stepScale num den ≤ stepScale num' den' := by
  have hquot : num / den ≤ num' / den' := by
    rw [Nat.le_div_iff_mul_le hden']
    apply Nat.le_of_mul_le_mul_right _ hden
    calc num / den * den' * den = num / den * den * den' := by ring
      _ ≤ num * den' := Nat.mul_le_mul_right _ (Nat.div_mul_le_self num den)
      _ ≤ num' * den := h
  unfold stepScale
  rcases Nat.eq_zero_or_pos (num / den) with hzero | hpos
  · simp [hzero]
  · have hlog : Nat.log2 (num / den) ≤ Nat.log2 (num' / den') :=
      (Nat.le_log2 (by omega)).mpr ((Nat.log2_self_le hpos.ne').trans hquot)
    omega

/-- A larger ratio is not rounded to a smaller double. -/
theorem nearestMagnitude_mono (hden : 0 < den) (hden' : 0 < den') (h : num * den' ≤ num' * den) :
    nearestMagnitude num den ≤ nearestMagnitude num' den' := by
  have hscale := stepScale_mono hden hden' h
  rw [nearestMagnitude_eq, nearestMagnitude_eq]
  apply min_le_min_left
  rcases Nat.lt_or_eq_of_le hscale with hlt | heq
  · -- The fewest steps of a higher binade reach up to the most of a lower one.
    have hmost := nearestSteps_le num den
    have hfewest : 2 ^ 52 ≤ nearestSteps num' den' := nearestSteps_scale.resolve_left (by omega)
    omega
  · unfold nearestSteps
    rw [heq]
    apply Nat.add_le_add_left
    have hstep := Nat.two_pow_pos (stepScale num' den')
    apply roundHalfEven_mono (Nat.mul_pos hden hstep) (Nat.mul_pos hden' hstep)
    calc num * (den' * 2 ^ stepScale num' den') = num * den' * 2 ^ stepScale num' den' := by ring
      _ ≤ num' * den * 2 ^ stepScale num' den' := Nat.mul_le_mul_right _ h
      _ = num' * (den * 2 ^ stepScale num' den') := by ring

end Ratios

section Operations

variable {x x' y y' : Binary64}

/-- The product of two finite doubles is rounded once. -/
theorem mul_of_isFinite (hx : x.isFinite = true) (hy : y.isFinite = true) :
    x.mul y = nearest (x.negative != y.negative) (x.units * y.units) one := by
  simp [mul, isNaN_of_isFinite, isInfinite_of_isFinite, hx, hy]

/-- The quotient of two finite doubles is rounded once, unless the divisor is zero. -/
theorem div_of_isFinite (hx : x.isFinite = true) (hy : y.isFinite = true)
    (hzero : y.isZero = false) :
    x.div y = nearest (x.negative != y.negative) (x.units * one) y.units := by
  simp [div, isNaN_of_isFinite, isInfinite_of_isFinite, hx, hy, hzero]

theorem magnitude_ofNat_mono {n n' : ℕ} (h : n ≤ n') :
    (ofNat n).magnitude ≤ (ofNat n').magnitude := by
  rw [ofNat, ofNat, magnitude_nearest, magnitude_nearest]
  apply nearestMagnitude_mono Nat.one_pos Nat.one_pos
  exact Nat.mul_le_mul_right 1 (Nat.mul_le_mul_right one h)

theorem magnitude_mul_mono (hx : x.isFinite = true) (hx' : x'.isFinite = true)
    (hy : y.isFinite = true) (h : x.magnitude ≤ x'.magnitude) :
    (x.mul y).magnitude ≤ (x'.mul y).magnitude := by
  rw [mul_of_isFinite hx hy, mul_of_isFinite hx' hy, magnitude_nearest, magnitude_nearest]
  apply nearestMagnitude_mono one_pos one_pos
  exact Nat.mul_le_mul_right one (Nat.mul_le_mul_right y.units (units_le_iff.mpr h))

theorem magnitude_div_mono (hx : x.isFinite = true) (hx' : x'.isFinite = true)
    (hy : y.isFinite = true) (hy' : y'.isFinite = true) (hzero : y.isZero = false)
    (hzero' : y'.isZero = false) (h : x.magnitude ≤ x'.magnitude)
    (hdivisor : y'.magnitude ≤ y.magnitude) : (x.div y).magnitude ≤ (x'.div y').magnitude := by
  rw [div_of_isFinite hx hy hzero, div_of_isFinite hx' hy' hzero', magnitude_nearest,
    magnitude_nearest]
  apply nearestMagnitude_mono (units_pos hzero) (units_pos hzero')
  exact Nat.mul_le_mul (Nat.mul_le_mul_right one (units_le_iff.mpr h)) (units_le_iff.mpr hdivisor)

end Operations

end LightningDeposit.Binary64
