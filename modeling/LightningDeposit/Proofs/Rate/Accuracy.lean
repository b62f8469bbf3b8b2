import LightningDeposit.Proofs.Binary64.Order
import LightningDeposit.Proofs.Rate.Pricing

/-!
How far a price in whole satoshis can be from the exact one, and which prices are refused. Rounding
takes less than one part in `2 ^ 51` from a price and adds less than that and a satoshi. Refused is
exactly what does not fit a word, although the check compares two rounded doubles, and what passes
it is neither cut nor refused later.
-/

namespace LightningDeposit.Pricing
open Binary64

variable {cents msats : UInt64} {rate : Binary64}

/-- A price that is not zero comes to at least one satoshi. It is off by less than one part in
`2 ^ 51`, beside the satoshi that is rounded up to. -/
theorem price_accurate (hcents : cents ≠ 0) (h : centsToMsats cents rate = .ok msats) :
    let exact : ℚ := cents.toNat * 10 ^ 6 / rate.value
    ∃ sats : ℕ, msats.toNat = 1000 * sats ∧ 0 < sats ∧
      exact * (1 - 1 / 2 ^ 51) ≤ sats ∧ sats < exact * (1 + 1 / 2 ^ 51) + 1 := by
  intro exact
  obtain ⟨hrate, ⟨hzero, -⟩ | ⟨-, hfin, hmsats⟩⟩ := centsToMsats_eq_ok h
  · exact absurd hzero hcents
  have hround := isFinite_of_ceil hfin
  have hsign := negative_roundedSats hrate hround
  obtain ⟨hlow, hhigh⟩ : (1 - 1 / 2 ^ 53) ^ 3 * exact ≤ (roundedSats cents rate).value ∧
      (roundedSats cents rate).value ≤ (1 + 1 / 2 ^ 53) ^ 3 * exact :=
    roundedSats_bounds hcents hrate hround
  have hpos : 0 < exact := by
    have hcast : (0 : ℚ) < cents.toNat := by
      exact_mod_cast Nat.pos_of_ne_zero fun h0 => hcents (UInt64.toNat_inj.mp h0)
    exact div_pos (mul_pos hcast (by norm_num)) (value_pos hrate)
  have hvalue : 0 < (roundedSats cents rate).value := by linarith
  rw [wholeSats_eq, wholePart_ceil hsign hround] at hmsats
  refine ⟨_, hmsats, Nat.ceil_pos.mpr hvalue, ?_, ?_⟩
  · have hceil := Nat.le_ceil (roundedSats cents rate).value
    linarith
  · have hceil := Nat.ceil_lt_add_one hvalue.le
    linarith

theorem price_accurate_at_largest_rate : centsToMsats 1 ⟨0x7fefffffffffffff⟩ = .ok 1000 ∧
    (1 : ℚ) < 1 * 10 ^ 6 / value ⟨0x7fefffffffffffff⟩ * (1 + 1 / 2 ^ 51) + 1 := by
  have h := price_of_cent.2.2
  obtain ⟨sats, hmsats, -, -, hhigh⟩ := price_accurate (by decide) h
  have hsats : sats = 1 := by
    have hthousand : (1000 : UInt64).toNat = 1000 := rfl
    omega
  rw [hsats, show (1 : UInt64).toNat = 1 from rfl, Nat.cast_one] at hhigh
  exact ⟨h, hhigh⟩

section Guard

theorem isPositiveFinite_satsPerCentTimesRate : satsPerCentTimesRate.isPositiveFinite = true := by
  refine isPositiveFinite_iff_value.mpr ⟨isFinite_satsPerCentTimesRate, ?_⟩
  rw [value_satsPerCentTimesRate]
  norm_num

theorem isNaN_roundedSats (cents : UInt64) (hrate : rate.isPositiveFinite = true) :
    (roundedSats cents rate).isNaN = false := by
  obtain ⟨hfin, -, hzero⟩ := isPositiveFinite_iff.mp hrate
  obtain ⟨hfactor, -, hfactor'⟩ := isPositiveFinite_iff.mp isPositiveFinite_satsPerCentTimesRate
  exact isNaN_div (isNaN_mul (isNaN_nearest _ _ _) hfactor hfactor') hfin hzero

/-- The quotient is a number or too large for one. -/
theorem roundedSats_cases (cents : UInt64) (hrate : rate.isPositiveFinite = true) :
    (roundedSats cents rate).isInfinite = true ∨ (roundedSats cents rate).isFinite = true := by
  cases hinf : (roundedSats cents rate).isInfinite with
  | true => exact .inl rfl
  | false => exact .inr (isFinite_of_cases (isNaN_roundedSats cents hrate) hinf)

/-- The limit is rounded to the least number of satoshis that does not fit. -/
theorem satsLimit_spec : satsLimit.isFinite = true ∧ satsLimit.negative = false ∧
    satsLimit.value = 18446744073709552 := by
  obtain ⟨hfin, hsign, hunits⟩ : satsLimit.isFinite = true ∧ satsLimit.negative = false ∧
      satsLimit.units = 18446744073709552 * one := by
    decide +kernel
  refine ⟨hfin, hsign, ?_⟩
  rw [value_of_nonneg hsign, hunits, Nat.cast_mul, mul_div_cancel_right₀ _ cast_one_pos.ne',
    Nat.cast_ofNat]

/-- Although it compares doubles, the check refuses just what does not fit a word. -/
theorem satsLimit_le_iff (hrate : rate.isPositiveFinite = true)
    (hfin : (roundedSats cents rate).isFinite = true) :
    satsLimit.le (wholeSats cents rate) = true ↔
      2 ^ 64 - 1 < 1000 * ⌈(roundedSats cents rate).value⌉₊ := by
  have hsign := negative_roundedSats hrate hfin
  obtain ⟨hlimit, hlimit', hvalue⟩ := satsLimit_spec
  rw [wholeSats_eq, le_iff hlimit' (negative_ceil hsign hfin) hlimit (isFinite_ceil hsign hfin),
    hvalue, value_ceil hsign hfin]
  generalize ⌈(roundedSats cents rate).value⌉₊ = sats
  rw [← Nat.cast_ofNat, Nat.cast_le]
  omega

theorem toNat_toWord_wholeSats (hrate : rate.isPositiveFinite = true)
    (hfin : (roundedSats cents rate).isFinite = true)
    (hfits : 1000 * ⌈(roundedSats cents rate).value⌉₊ ≤ 2 ^ 64 - 1) :
    (wholeSats cents rate).toWord.toNat = ⌈(roundedSats cents rate).value⌉₊ := by
  have hsign := negative_roundedSats hrate hfin
  rw [wholeSats_eq, toNat_toWord (isFinite_ceil hsign hfin) (negative_ceil hsign hfin),
    wholePart_ceil hsign hfin]
  omega

theorem centsToMsats_of_isInfinite (hrate : rate.isPositiveFinite = true) (hcents : cents ≠ 0)
    (hinf : (roundedSats cents rate).isInfinite = true) :
    centsToMsats cents rate = .error .amountOverflow := by
  have hnot := not_isFinite_of_isInfinite hinf
  have hsats : (wholeSats cents rate).isFinite = false := by
    rw [wholeSats_eq, ceil_of_not_isFinite hnot]
    exact hnot
  simp [centsToMsats, hrate, hcents, hsats]

theorem centsToMsats_of_isFinite (hrate : rate.isPositiveFinite = true) (hcents : cents ≠ 0)
    (hfin : (roundedSats cents rate).isFinite = true) :
    centsToMsats cents rate =
      if satsLimit.le (wholeSats cents rate) then .error .amountOverflow
      else satsToMsats (wholeSats cents rate).toWord := by
  have hsats : (wholeSats cents rate).isFinite = true := by
    rw [wholeSats_eq]
    exact isFinite_ceil (negative_roundedSats hrate hfin) hfin
  simp [centsToMsats, hrate, hcents, hsats]

theorem centsToMsats_of_not_fits (hrate : rate.isPositiveFinite = true) (hcents : cents ≠ 0)
    (hfin : (roundedSats cents rate).isFinite = true)
    (hnot : 2 ^ 64 - 1 < 1000 * ⌈(roundedSats cents rate).value⌉₊) :
    centsToMsats cents rate = .error .amountOverflow := by
  rw [centsToMsats_of_isFinite hrate hcents hfin, if_pos ((satsLimit_le_iff hrate hfin).mpr hnot)]

theorem centsToMsats_of_fits (hrate : rate.isPositiveFinite = true) (hcents : cents ≠ 0)
    (hfin : (roundedSats cents rate).isFinite = true)
    (hfits : 1000 * ⌈(roundedSats cents rate).value⌉₊ ≤ 2 ^ 64 - 1) :
    ∃ msats, centsToMsats cents rate = .ok msats ∧
      msats.toNat = 1000 * ⌈(roundedSats cents rate).value⌉₊ := by
  have hguard := mt (satsLimit_le_iff hrate hfin).mp (Nat.not_lt.mpr hfits)
  obtain ⟨msats, hmsats⟩ : ∃ msats : UInt64,
      msats.toNat = 1000 * ⌈(roundedSats cents rate).value⌉₊ :=
    ⟨.ofNat _, by rw [UInt64.toNat_ofNat']; exact Nat.mod_eq_of_lt (by omega)⟩
  refine ⟨msats, ?_, hmsats⟩
  rw [centsToMsats_of_isFinite hrate hcents hfin, if_neg hguard, satsToMsats_eq_ok_iff,
    toNat_toWord_wholeSats hrate hfin hfits]
  exact hmsats

/-- Too much is an infinite number of satoshis, or one that does not fit by the thousand. -/
theorem centsToMsats_eq_amountOverflow_iff (hrate : rate.isPositiveFinite = true)
    (hcents : cents ≠ 0) : centsToMsats cents rate = .error .amountOverflow ↔
      (roundedSats cents rate).isInfinite = true ∨
        2 ^ 64 - 1 < 1000 * ⌈(roundedSats cents rate).value⌉₊ := by
  constructor
  · intro h
    by_contra hnot
    rw [not_or, Nat.not_lt] at hnot
    have hfin := (roundedSats_cases cents hrate).resolve_left hnot.1
    obtain ⟨msats, hmsats, -⟩ := centsToMsats_of_fits hrate hcents hfin hnot.2
    rw [hmsats] at h
    cases h
  · intro h
    rcases roundedSats_cases cents hrate with hinf | hfin
    · exact centsToMsats_of_isInfinite hrate hcents hinf
    · rw [isInfinite_of_isFinite hfin, or_iff_right Bool.false_ne_true] at h
      exact centsToMsats_of_not_fits hrate hcents hfin h

/-- All other numbers of satoshis are priced. -/
theorem centsToMsats_eq_ok_iff (hrate : rate.isPositiveFinite = true) (hcents : cents ≠ 0) :
    centsToMsats cents rate = .ok msats ↔ (roundedSats cents rate).isInfinite = false ∧
      msats.toNat = 1000 * ⌈(roundedSats cents rate).value⌉₊ := by
  constructor
  · intro h
    obtain ⟨-, ⟨hzero, -⟩ | ⟨-, hfin, hmsats⟩⟩ := centsToMsats_eq_ok h
    · exact absurd hzero hcents
    · have hround := isFinite_of_ceil hfin
      rw [wholeSats_eq, wholePart_ceil (negative_roundedSats hrate hround) hround] at hmsats
      exact ⟨isInfinite_of_isFinite hround, hmsats⟩
  · rintro ⟨hinf, hmsats⟩
    have hfin := (roundedSats_cases cents hrate).resolve_left (Bool.eq_false_iff.mp hinf)
    have hlt := msats.toNat_lt
    obtain ⟨other, hother, heq⟩ := centsToMsats_of_fits hrate hcents hfin (by omega)
    rw [hother, UInt64.toNat_inj.mp (hmsats.trans heq.symm)]

theorem centsToMsats_eq_invalidRate_iff {found : Binary64} :
    centsToMsats cents rate = .error (.invalidRate found) ↔
      found = rate ∧ ¬(rate.isFinite = true ∧ 0 < rate.value) := by
  rw [← isPositiveFinite_iff_value]
  constructor
  · intro h
    refine ⟨?_, fun hrate => ?_⟩
    · rcases centsToMsats_eq_error h with hrate | hover
      · exact BackendError.invalidRate.inj hrate
      · cases hover
    · cases eq_amountOverflow hrate h
  · rintro ⟨rfl, hrate⟩
    simp [centsToMsats, hrate]

end Guard

/-- A rate that is not positive and finite is refused, and nothing else as a rate. At any other rate
let the satoshis be the quotient of doubles, rounded up: refused as too much are exactly those that
are infinite or do not fit a word by the thousand, and the others come to just a thousand times
their number. So the comparison with the limit, itself a rounded quotient, turns away nothing that
fits; what it lets pass is the same number as a word, and its product with a thousand is there. -/
theorem overflow_guard_exact (cents : UInt64) (rate : Binary64) :
    let quotient := roundedSats cents rate
    let sats := ⌈quotient.value⌉₊
    (∀ found, centsToMsats cents rate = .error (.invalidRate found) ↔
      found = rate ∧ ¬(rate.isFinite = true ∧ 0 < rate.value)) ∧
    (rate.isFinite = true → 0 < rate.value → cents ≠ 0 →
      (quotient.isInfinite = true ∨
        quotient.isFinite = true ∧ (wholeSats cents rate).value = sats) ∧
      (centsToMsats cents rate = .error .amountOverflow ↔
        quotient.isInfinite = true ∨ 2 ^ 64 - 1 < 1000 * sats) ∧
      (∀ msats, centsToMsats cents rate = .ok msats ↔
        quotient.isInfinite = false ∧ msats.toNat = 1000 * sats) ∧
      (quotient.isFinite = true →
        (satsLimit.le (wholeSats cents rate) = true ↔ 2 ^ 64 - 1 < 1000 * sats) ∧
        (satsLimit.le (wholeSats cents rate) = false →
          (wholeSats cents rate).toWord.toNat = sats ∧
            checkedMul (wholeSats cents rate).toWord msatsPerSat ≠ none))) := by
  intro quotient sats
  refine ⟨fun _ => centsToMsats_eq_invalidRate_iff, fun hnumber hpositive hcents => ?_⟩
  have hrate := isPositiveFinite_iff_value.mpr ⟨hnumber, hpositive⟩
  refine ⟨(roundedSats_cases cents hrate).imp_right fun hfin => ⟨hfin, ?_⟩,
    centsToMsats_eq_amountOverflow_iff hrate hcents,
    fun _ => centsToMsats_eq_ok_iff hrate hcents, fun hfin => ?_⟩
  · exact value_ceil (negative_roundedSats hrate hfin) hfin
  · have hguard := satsLimit_le_iff hrate hfin
    refine ⟨hguard, fun hpass => ?_⟩
    have hfits : 1000 * ⌈(roundedSats cents rate).value⌉₊ ≤ 2 ^ 64 - 1 :=
      Nat.not_lt.mp fun hlarge => Bool.eq_false_iff.mp hpass (hguard.mpr hlarge)
    have hword := toNat_toWord_wholeSats hrate hfin hfits
    refine ⟨hword, ?_⟩
    rw [checkedMul_msatsPerSat, hword, if_pos (by omega)]
    exact Option.some_ne_none _

/-- At a million dollars for a bitcoin a cent is a satoshi, but bills past `2 ^ 53` cents are first
rounded to a double. At the double above that rate such a bill comes to a satoshi less. -/
theorem price_at_million :
    let rate : Binary64 := ⟨0x412e848000000000⟩
    centsToMsats 9007199254740993 rate = .ok 9007199254740992000 ∧
      centsToMsats 9007199254740992 ⟨0x412e848000000001⟩ = .ok 9007199254740991000 ∧
      centsToMsats 18446744073709548 rate = .ok 18446744073709548000 ∧
      centsToMsats 18446744073709552 rate = .error .amountOverflow ∧
      (roundedSats 18446744073709552 rate).isInfinite = false := by
  decide +kernel

/-- At a million dollars for a bitcoin a cent is a satoshi. The last double below the limit is
priced, the limit is not. -/
theorem overflow_guard_exact_at_limit :
    let rate : Binary64 := ⟨0x412e848000000000⟩
    (centsToMsats 18446744073709548 rate = .ok 18446744073709548000 ∧
      18446744073709548000 = 1000 * ⌈(roundedSats 18446744073709548 rate).value⌉₊) ∧
    centsToMsats 18446744073709552 rate = .error .amountOverflow ∧
      2 ^ 64 - 1 < 1000 * ⌈(roundedSats 18446744073709552 rate).value⌉₊ := by
  intro rate
  have hrate : rate.isPositiveFinite = true := by decide
  obtain ⟨hfin, hpos⟩ := isPositiveFinite_iff_value.mp hrate
  obtain ⟨-, -, hpriced, hover, hnot⟩ := price_at_million
  have hbelow := (overflow_guard_exact 18446744073709548 rate).2 hfin hpos (by decide)
  have habove := (overflow_guard_exact 18446744073709552 rate).2 hfin hpos (by decide)
  have hlarge := (habove.2.1.mp hover).resolve_left (Bool.eq_false_iff.mp hnot)
  exact ⟨⟨hpriced, ((hbelow.2.2.1 _).mp hpriced).2⟩, hover, hlarge⟩

end LightningDeposit.Pricing
