import LightningDeposit.Rate.Pricing
import LightningDeposit.Proofs.Binary64.Value
import Mathlib.Tactic.NormNum

/-!
What a price in cents comes to in millisatoshis. The price is rounded up to whole satoshis, but from
a quotient that has been rounded to a double before: where that rounding passes a whole number the
price is not quite covered. What is missing is less than one part in `2 ^ 51`.
-/

namespace LightningDeposit.Pricing
open Binary64

variable {cents msats : UInt64} {rate : Binary64}

/-- A price in satoshis times the rate, as a double. -/
def roundedProduct (cents : UInt64) : Binary64 :=
  (Binary64.ofNat cents.toNat).mul satsPerCentTimesRate

/-- The price in satoshis as a double, before it is rounded up. -/
def roundedSats (cents : UInt64) (rate : Binary64) : Binary64 :=
  (roundedProduct cents).div rate

theorem wholeSats_eq (cents : UInt64) (rate : Binary64) :
    wholeSats cents rate = (roundedSats cents rate).ceil := rfl

theorem negative_satsPerCentTimesRate : satsPerCentTimesRate.negative = false :=
  negative_ofNat 1000000

theorem isFinite_satsPerCentTimesRate : satsPerCentTimesRate.isFinite = true :=
  isFinite_ofNat (by norm_num)

theorem value_satsPerCentTimesRate : satsPerCentTimesRate.value = 10 ^ 6 := by
  rw [satsPerCentTimesRate, value_ofNat (by norm_num)]
  norm_num

theorem isFinite_roundedProduct (hrate : rate.isPositiveFinite = true)
    (h : (roundedSats cents rate).isFinite = true) : (roundedProduct cents).isFinite = true := by
  obtain ⟨hfin, -, hzero⟩ := isPositiveFinite_iff.mp hrate
  exact (div_eq_nearest hfin hzero h).1

theorem negative_roundedProduct (h : (roundedProduct cents).isFinite = true) :
    (roundedProduct cents).negative = false :=
  negative_mul (negative_ofNat _) negative_satsPerCentTimesRate h

theorem negative_roundedSats (hrate : rate.isPositiveFinite = true)
    (h : (roundedSats cents rate).isFinite = true) : (roundedSats cents rate).negative = false :=
  negative_div (negative_roundedProduct (isFinite_roundedProduct hrate h)) hrate h

/-- The word and the product are each rounded by one part in `2 ^ 53`. -/
theorem roundedProduct_bounds (hcents : cents ≠ 0) (h : (roundedProduct cents).isFinite = true) :
    (1 - 1 / 2 ^ 53) ^ 2 * (cents.toNat * 10 ^ 6) ≤ (roundedProduct cents).value ∧
      (roundedProduct cents).value ≤ (1 + 1 / 2 ^ 53) ^ 2 * (cents.toNat * 10 ^ 6) := by
  have hpos : 0 < cents.toNat := Nat.pos_of_ne_zero fun h0 => hcents (UInt64.toNat_inj.mp h0)
  have hone : (1 : ℚ) ≤ cents.toNat := by exact_mod_cast hpos
  obtain ⟨hclow, hchigh⟩ := isRounding_ofNat hpos (mul_eq_nearest h).1
  have hround := isRounding_mul (negative_ofNat _) negative_satsPerCentTimesRate
    (by rw [value_satsPerCentTimesRate]; linarith) h
  rw [value_satsPerCentTimesRate, ← roundedProduct] at hround
  obtain ⟨hlow, hhigh⟩ := hround
  constructor <;> linarith

/-- The quotient is rounded once more. -/
theorem roundedSats_bounds (hcents : cents ≠ 0) (hrate : rate.isPositiveFinite = true)
    (h : (roundedSats cents rate).isFinite = true) :
    (1 - 1 / 2 ^ 53) ^ 3 * (cents.toNat * 10 ^ 6 / rate.value) ≤ (roundedSats cents rate).value ∧
      (roundedSats cents rate).value ≤
        (1 + 1 / 2 ^ 53) ^ 3 * (cents.toNat * 10 ^ 6 / rate.value) := by
  have hfin := isFinite_roundedProduct hrate h
  have hone : (1 : ℚ) ≤ cents.toNat := by
    exact_mod_cast Nat.pos_of_ne_zero fun h0 => hcents (UInt64.toNat_inj.mp h0)
  have hr := value_pos hrate
  obtain ⟨hplow, hphigh⟩ := roundedProduct_bounds hcents hfin
  obtain ⟨hlow, hhigh⟩ := isRounding_div (negative_roundedProduct hfin) hrate (by linarith) h
  rw [← roundedSats] at hlow hhigh
  have hqlow := div_le_div_of_nonneg_right hplow hr.le
  have hqhigh := div_le_div_of_nonneg_right hphigh hr.le
  rw [mul_div_assoc] at hqlow hqhigh
  constructor <;> linarith

theorem checkedMul_msatsPerSat (sats : UInt64) : checkedMul sats msatsPerSat =
    if 1000 * sats.toNat < 2 ^ 64 then some (sats * msatsPerSat) else none := by
  have hfactor : msatsPerSat.toNat = 1000 := rfl
  rw [checkedMul, hfactor, maxWord, show UInt64.size = 2 ^ 64 from rfl]
  split <;> split <;> first | rfl | omega

/-- Satoshis are priced whenever a thousand times their number fits a word. -/
theorem satsToMsats_eq_ok_iff {sats : UInt64} :
    satsToMsats sats = .ok msats ↔ msats.toNat = 1000 * sats.toNat := by
  have hfactor : msatsPerSat.toNat = 1000 := rfl
  rw [satsToMsats, checkedMul_msatsPerSat]
  split
  next found hfound =>
    split at hfound
    next hlt =>
      cases hfound
      have hmul : (sats * msatsPerSat).toNat = 1000 * sats.toNat := by
        rw [UInt64.toNat_mul, hfactor, Nat.mod_eq_of_lt (by omega), Nat.mul_comm]
      rw [Except.ok.injEq, ← UInt64.toNat_inj, hmul, eq_comm]
    next => cases hfound
  next hnone =>
    split at hnone
    next => cases hnone
    next hlt =>
      have := msats.toNat_lt
      constructor
      · intro h
        cases h
      · intro h
        omega

theorem satsToMsats_eq_error {sats : UInt64} {cause : BackendError}
    (h : satsToMsats sats = .error cause) : cause = .amountOverflow := by
  unfold satsToMsats at h
  split at h <;> cases h
  rfl

theorem centsToMsats_eq_error {cause : BackendError} (h : centsToMsats cents rate = .error cause) :
    cause = .invalidRate rate ∨ cause = .amountOverflow := by
  unfold centsToMsats at h
  split at h
  · cases h
    exact .inl rfl
  · split at h
    · cases h
    · simp only at h
      split at h
      · cases h
        exact .inr rfl
      · exact .inr (satsToMsats_eq_error h)

/-- At a positive finite rate a price can only be too large. -/
theorem eq_amountOverflow {cause : BackendError} (hrate : rate.isPositiveFinite = true)
    (h : centsToMsats cents rate = .error cause) : cause = .amountOverflow := by
  simp only [centsToMsats, hrate, Bool.not_true, Bool.false_eq_true, ↓reduceIte] at h
  split at h
  next => cases h
  next =>
    split at h
    next =>
      cases h
      rfl
    next => exact satsToMsats_eq_error h

/-- A price that is not refused is a thousand times the whole satoshis. -/
theorem centsToMsats_eq_ok (h : centsToMsats cents rate = .ok msats) :
    rate.isPositiveFinite = true ∧ ((cents = 0 ∧ msats = 0) ∨
      (cents ≠ 0 ∧ (wholeSats cents rate).isFinite = true ∧
        msats.toNat = 1000 * (wholeSats cents rate).wholePart)) := by
  unfold centsToMsats at h
  split at h
  · cases h
  next hrate =>
    rw [Bool.not_eq_true', Bool.not_eq_false] at hrate
    refine ⟨hrate, ?_⟩
    split at h
    next hzero =>
      cases h
      exact .inl ⟨hzero, rfl⟩
    next hcents =>
      simp only at h
      split at h
      · cases h
      next hfits =>
        simp only [Bool.or_eq_true, Bool.not_eq_true', not_or, Bool.not_eq_false,
          Bool.not_eq_true] at hfits
        have hfin := hfits.1
        have hsign := negative_ceil (negative_roundedSats hrate (isFinite_of_ceil hfin))
          (isFinite_of_ceil hfin)
        refine .inr ⟨hcents, hfin, ?_⟩
        -- A word that was cut would be too large for the product to fit.
        have hword := toNat_toWord hfin hsign
        have hmsats := satsToMsats_eq_ok_iff.mp h
        have hlt := msats.toNat_lt
        omega

/-- A price is covered exactly if every whole number of satoshis from the rounded quotient on covers
it. Otherwise less than one part in `2 ^ 51` is missing. -/
theorem price_covered_iff (h : centsToMsats cents rate = .ok msats) :
    msats.toNat % 1000 = 0 ∧
      ((cents.toNat : ℚ) * 10 ^ 9 ≤ msats.toNat * rate.value ↔
        ∀ sats : ℕ, (roundedSats cents rate).value ≤ sats →
          (cents.toNat : ℚ) * 10 ^ 6 ≤ sats * rate.value) ∧
      (1 - 1 / 2 ^ 51) * (cents.toNat * 10 ^ 9) ≤ msats.toNat * rate.value := by
  obtain ⟨hrate, ⟨rfl, rfl⟩ | ⟨hcents, hfin, hmsats⟩⟩ := centsToMsats_eq_ok h
  · have hr := value_pos hrate
    refine ⟨rfl, ?_, by simp⟩
    simp only [UInt64.toNat_zero, Nat.cast_zero, zero_mul, le_refl, true_iff]
    intro sats _
    positivity
  have hr := value_pos hrate
  have hround := isFinite_of_ceil hfin
  have hsign := negative_roundedSats hrate hround
  have hleast := wholePart_ceil_le_iff hsign hfin
  rw [← wholeSats_eq] at hleast
  have hcover := (hleast _).mp le_rfl
  have hcast : (msats.toNat : ℚ) = 1000 * (wholeSats cents rate).wholePart := by
    exact_mod_cast hmsats
  refine ⟨by omega, ⟨fun hpaid sats hsats => ?_, fun hall => ?_⟩, ?_⟩
  · have hle : ((wholeSats cents rate).wholePart : ℚ) ≤ sats := by
      exact_mod_cast (hleast sats).mpr hsats
    have hmul := mul_le_mul_of_nonneg_right hle hr.le
    rw [hcast] at hpaid
    linarith
  · have := hall _ hcover
    rw [hcast]
    linarith
  · have hlow := (roundedSats_bounds hcents hrate hround).1
    have hquot := hlow.trans hcover
    rw [← mul_div_assoc, div_le_iff₀ hr] at hquot
    have hcents' : (0 : ℚ) ≤ cents.toNat := Nat.cast_nonneg _
    rw [hcast]
    linarith

/-- A cent at a usual rate, at a third of a million dollars for a bitcoin and at the largest rate.
-/
theorem price_of_cent : centsToMsats 1 ⟨0x40f7700000000000⟩ = .ok 11000 ∧
    centsToMsats 1 ⟨0x4114585555555555⟩ = .ok 3000 ∧
    centsToMsats 1 ⟨0x7fefffffffffffff⟩ = .ok 1000 := by
  decide +kernel

theorem price_covered_iff_at_usual_rate : centsToMsats 1 ⟨0x40f7700000000000⟩ = .ok 11000 ∧
    ((1 : ℚ) * 10 ^ 9 ≤ 11000 * value ⟨0x40f7700000000000⟩ ↔
      ∀ sats : ℕ, (roundedSats 1 ⟨0x40f7700000000000⟩).value ≤ sats →
        (1 : ℚ) * 10 ^ 6 ≤ sats * value ⟨0x40f7700000000000⟩) := by
  have h := price_of_cent.1
  have hcovered := (price_covered_iff h).2.1
  rw [show (1 : UInt64).toNat = 1 from rfl, show (11000 : UInt64).toNat = 11000 from rfl,
    Nat.cast_one, Nat.cast_ofNat] at hcovered
  exact ⟨h, hcovered⟩

/-- A cent at a third of a million dollars for a bitcoin: the quotient is a little more than three
satoshis and rounds to three. -/
theorem price_not_covered : centsToMsats 1 ⟨0x4114585555555555⟩ = .ok 3000 ∧
    ¬((1 : ℚ) * 10 ^ 9 ≤ 3000 * value ⟨0x4114585555555555⟩) := by
  refine ⟨price_of_cent.2.1, ?_⟩
  have hsign : (⟨0x4114585555555555⟩ : Binary64).negative = false := by decide
  have hunits : 3000 * (⟨0x4114585555555555⟩ : Binary64).units < 1 * 10 ^ 9 * one := by
    decide +kernel
  rw [value_of_nonneg hsign, not_le, ← mul_div_assoc, div_lt_iff₀ cast_one_pos]
  exact_mod_cast hunits

end LightningDeposit.Pricing
