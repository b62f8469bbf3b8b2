import LightningDeposit.Proofs.Binary64.Monotone
import LightningDeposit.Proofs.Rate.Accuracy

/-!
Prices keep the order of what is priced. Every step of pricing keeps it: the rounding of the cents, of
the product and of the quotient, the ceiling, and the check of what fits. So a larger bill never costs
less, a higher rate never makes a bill cost more, and what is too much stays too much.
-/

namespace LightningDeposit.Pricing
open Binary64

/-- Prices in their order, where too much is above every amount. A refusal for another reason is no
price. -/
def CostsAtMost : Except BackendError UInt64 → Except BackendError UInt64 → Prop
  | .ok msats, .ok msats' => msats ≤ msats'
  | .ok _, .error .amountOverflow => True
  | .error .amountOverflow, .error .amountOverflow => True
  | _, _ => False

variable {cents cents' : UInt64} {rate rate' : Binary64}

/-- At a rate that can be used a price is an amount or too much. -/
theorem priced_or_overflow (cents : UInt64) (hrate : rate.isPositiveFinite = true) :
    (∃ msats, centsToMsats cents rate = .ok msats) ∨
      centsToMsats cents rate = .error .amountOverflow := by
  cases h : centsToMsats cents rate with
  | ok msats => exact .inl ⟨msats, rfl⟩
  | error cause => exact .inr (by rw [eq_amountOverflow hrate h])

theorem costsAtMost_overflow (cents : UInt64) (hrate : rate.isPositiveFinite = true) :
    CostsAtMost (centsToMsats cents rate) (.error .amountOverflow) := by
  rcases priced_or_overflow cents hrate with ⟨msats, h⟩ | h <;> rw [h] <;> exact trivial

theorem centsToMsats_zero (hrate : rate.isPositiveFinite = true) :
    centsToMsats 0 rate = .ok 0 := by
  simp [centsToMsats, hrate]

/-- No word is so large that its double, or its product with the satoshis, is infinite. -/
theorem isFinite_product (cents : UInt64) :
    (Binary64.ofNat cents.toNat).isFinite = true ∧ (roundedProduct cents).isFinite = true := by
  have hword : cents.toNat ≤ 2 ^ 64 - 1 := Nat.le_sub_one_of_lt cents.toNat_lt
  have hproduct : ((Binary64.ofNat (2 ^ 64 - 1)).mul satsPerCentTimesRate).isFinite = true := by
    decide +kernel
  have hlast : (Binary64.ofNat (2 ^ 64 - 1)).isFinite = true := (mul_eq_nearest hproduct).1
  have hle := magnitude_ofNat_mono hword
  have hfin := isFinite_of_magnitude_le hle hlast
  have hmul := magnitude_mul_mono hfin hlast isFinite_satsPerCentTimesRate hle
  exact ⟨hfin, isFinite_of_magnitude_le hmul hproduct⟩

theorem magnitude_roundedProduct_mono (h : cents ≤ cents') :
    (roundedProduct cents).magnitude ≤ (roundedProduct cents').magnitude := by
  apply magnitude_mul_mono (isFinite_product cents).1 (isFinite_product cents').1
    isFinite_satsPerCentTimesRate
  exact magnitude_ofNat_mono (UInt64.le_iff_toNat_le.mp h)

/-- The quotient grows with the bill and shrinks with the rate. -/
theorem magnitude_roundedSats_mono (hrate : rate.isPositiveFinite = true)
    (hrate' : rate'.isPositiveFinite = true) (hcents : cents ≤ cents')
    (hle : rate'.value ≤ rate.value) :
    (roundedSats cents rate).magnitude ≤ (roundedSats cents' rate').magnitude := by
  obtain ⟨hfin, hsign, hzero⟩ := isPositiveFinite_iff.mp hrate
  obtain ⟨hfin', hsign', hzero'⟩ := isPositiveFinite_iff.mp hrate'
  apply magnitude_div_mono (isFinite_product cents).2 (isFinite_product cents').2 hfin hfin' hzero
    hzero' (magnitude_roundedProduct_mono hcents)
  rw [value_of_nonneg hsign, value_of_nonneg hsign',
    div_le_div_iff_of_pos_right cast_one_pos] at hle
  exact units_le_iff.mp (by exact_mod_cast hle)

/-- A quotient below a finite one is finite, and so is its ceiling below the other's. -/
theorem ceil_roundedSats_mono (hrate : rate.isPositiveFinite = true)
    (hrate' : rate'.isPositiveFinite = true) (hcents : cents ≤ cents')
    (hle : rate'.value ≤ rate.value) (hfin' : (roundedSats cents' rate').isFinite = true) :
    (roundedSats cents rate).isFinite = true ∧
      ⌈(roundedSats cents rate).value⌉₊ ≤ ⌈(roundedSats cents' rate').value⌉₊ := by
  have hmagnitude := magnitude_roundedSats_mono hrate hrate' hcents hle
  have hfin := isFinite_of_magnitude_le hmagnitude hfin'
  refine ⟨hfin, Nat.ceil_le_ceil ?_⟩
  rw [value_of_nonneg (negative_roundedSats hrate hfin),
    value_of_nonneg (negative_roundedSats hrate' hfin'), div_le_div_iff_of_pos_right cast_one_pos]
  exact_mod_cast units_le_iff.mpr hmagnitude

/-- A bill that is not smaller, at a rate that is not higher, does not cost less, where what is too
much costs more than everything else. -/
theorem price_monotone (hcents : cents ≤ cents') (hfin : rate.isFinite = true)
    (hfin' : rate'.isFinite = true) (hpos : 0 < rate'.value) (hrate : rate'.value ≤ rate.value) :
    CostsAtMost (centsToMsats cents rate) (centsToMsats cents' rate') := by
  have hgood := isPositiveFinite_iff_value.mpr ⟨hfin, hpos.trans_le hrate⟩
  have hgood' := isPositiveFinite_iff_value.mpr ⟨hfin', hpos⟩
  rcases priced_or_overflow cents' hgood' with ⟨msats', hmsats'⟩ | hover
  · rw [hmsats']
    by_cases hzero : cents = 0
    · rw [hzero, centsToMsats_zero hgood]
      exact UInt64.zero_le
    have hzero' : cents' ≠ 0 := by
      rintro rfl
      exact hzero (UInt64.le_zero_iff.mp hcents)
    obtain ⟨hinf, hsats'⟩ := (centsToMsats_eq_ok_iff hgood' hzero').mp hmsats'
    have hround' := (roundedSats_cases cents' hgood').resolve_left (Bool.eq_false_iff.mp hinf)
    obtain ⟨hround, hceil⟩ := ceil_roundedSats_mono hgood hgood' hcents hrate hround'
    have hword := msats'.toNat_lt
    obtain ⟨msats, hmsats, hsats⟩ := centsToMsats_of_fits hgood hzero hround (by omega)
    rw [hmsats]
    apply UInt64.le_iff_toNat_le.mpr
    rw [hsats, hsats']
    exact Nat.mul_le_mul_left 1000 hceil
  · rw [hover]
    exact costsAtMost_overflow cents hgood

/-- Two bills that are one double, at a million dollars for a bitcoin and at the double above: the
larger bill costs a satoshi more. -/
theorem price_monotone_past_exact_doubles :
    let rate : Binary64 := ⟨0x412e848000000001⟩
    let rate' : Binary64 := ⟨0x412e848000000000⟩
    rate'.value ≤ rate.value ∧
      centsToMsats 9007199254740992 rate = .ok 9007199254740991000 ∧
      centsToMsats 9007199254740993 rate' = .ok 9007199254740992000 ∧
      (9007199254740991000 : UInt64) ≤ 9007199254740992000 := by
  intro rate rate'
  obtain ⟨hprice', hprice, -⟩ := price_at_million
  have hfin : rate.isFinite = true := by decide
  have hgood' : rate'.isPositiveFinite = true := by decide
  obtain ⟨hfin', hpos⟩ := isPositiveFinite_iff_value.mp hgood'
  have hrate : rate'.value ≤ rate.value := by
    apply (le_iff _ _ hfin' hfin).mp <;> decide
  have hmono : CostsAtMost (centsToMsats 9007199254740992 rate)
      (centsToMsats 9007199254740993 rate') :=
    price_monotone (by decide) hfin hfin' hpos hrate
  rw [hprice, hprice'] at hmono
  exact ⟨hrate, hprice, hprice', hmono⟩

end LightningDeposit.Pricing
