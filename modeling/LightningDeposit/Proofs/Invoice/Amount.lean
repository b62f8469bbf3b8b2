import LightningDeposit.Proofs.Client.Call
import LightningDeposit.Proofs.Rate.Lookup
import LightningDeposit.Proofs.Rate.Pricing

/-!
What an amount comes to in millisatoshis and what is asked for on the way: nothing for satoshis, and
for cents at most the price of a bitcoin. The rate for cents is the fresh one in the slot, else the
price that was asked for, else one in the slot that can still stand in.
-/

namespace LightningDeposit.Backend

variable {b : Backend} {s : Surroundings} {amount : Amount} {msats : UInt64}

/-- A look-up that does not find a fresh rate asks for the price and is settled by the answer. -/
theorem exchangeRate_of_stale (h : ¬∃ rate, s.slot.HoldsWithin s.exchange.clock 300 rate) :
    let asked := b.client.bitcoinPrice s.exchange
    b.exchangeRate s = ((s.slot.settle asked.2.clock asked.1).1,
      ⟨asked.2, (s.slot.settle asked.2.clock asked.1).2⟩) := by
  simp only [exchangeRate, RateSlot.fresh?_eq_none_iff.mpr h]

theorem exchangeRate_of_fresh {rate : Binary64}
    (h : s.slot.HoldsWithin s.exchange.clock 300 rate) : b.exchangeRate s = (.ok rate, s) := by
  simp only [exchangeRate, RateSlot.fresh?_eq_some_iff.mpr h]

/-- A look-up without another one beside it is a run of its own. -/
theorem exchangeRate_eq_run (b : Backend) (s : Surroundings) :
    let asked := b.client.bitcoinPrice s.exchange
    let t := Lookups.run ⟨s.slot, s.exchange.clock, []⟩
      [.begin, .clock asked.2.clock, .answered 0 asked.1]
    t.slot = (b.exchangeRate s).2.slot ∧
      t.calls.map Lookup.result = [some (b.exchangeRate s).1] := by
  intro asked t
  by_cases hfresh : ∃ rate, s.slot.HoldsWithin s.exchange.clock 300 rate
  · obtain ⟨rate, hrate⟩ := hfresh
    have hbegin : Lookups.step ⟨s.slot, s.exchange.clock, []⟩ .begin =
      ⟨s.slot, s.exchange.clock, [⟨0, some (.ok rate)⟩]⟩ := Lookups.begin_fresh hrate
    simp only [t, Lookups.run_cons, Lookups.run_nil, hbegin, exchangeRate_of_fresh hrate]
    exact ⟨rfl, rfl⟩
  · have hbegin : Lookups.step ⟨s.slot, s.exchange.clock, []⟩ .begin =
      ⟨s.slot, s.exchange.clock, [⟨1, none⟩]⟩ := Lookups.begin_stale hfresh
    simp only [t, Lookups.run_cons, Lookups.run_nil, hbegin, exchangeRate_of_stale hfresh]
    exact ⟨rfl, rfl⟩

/-- A look-up finds a fresh rate and asks for nothing, or the answer to its one call settles it. -/
theorem exchangeRate_cases (b : Backend) (s : Surroundings) :
    (∃ rate, s.slot.HoldsWithin s.exchange.clock 300 rate ∧ b.exchangeRate s = (.ok rate, s)) ∨
    (¬∃ rate, s.slot.HoldsWithin s.exchange.clock 300 rate) ∧
      let asked := b.client.bitcoinPrice s.exchange
      (b.exchangeRate s).2.exchange = asked.2 ∧
      s.slot.Settled asked.2.clock asked.1 (b.exchangeRate s).1 (b.exchangeRate s).2.slot := by
  by_cases hfresh : ∃ rate, s.slot.HoldsWithin s.exchange.clock 300 rate
  · obtain ⟨rate, hrate⟩ := hfresh
    exact .inl ⟨rate, hrate, exchangeRate_of_fresh hrate⟩
  · refine .inr ⟨hfresh, ?_⟩
    rw [exchangeRate_of_stale hfresh]
    exact ⟨rfl, RateSlot.settle_settled _ _ _⟩

theorem exchangeRate_sends (b : Backend) (s : Surroundings) :
    ∃ lookups, s.exchange.Sends lookups (b.exchangeRate s).2.exchange ∧
      (lookups = [] ∨ lookups = [b.client.priceRequest]) := by
  rcases b.exchangeRate_cases s with ⟨rate, -, hrate⟩ | ⟨-, hexchange, -⟩
  · rw [hrate]
    exact ⟨[], .none _, .inl rfl⟩
  · rw [hexchange]
    by_cases hsend : b.client.CanSend s.exchange
    · rw [Client.bitcoinPrice_of_canSend hsend]
      exact ⟨_, .one _ _, .inr rfl⟩
    · obtain ⟨cause, hprice⟩ := Client.bitcoinPrice_of_not_canSend hsend
      rw [hprice]
      exact ⟨[], .none _, .inl rfl⟩

theorem exchangeRate_eq_error {cause : BackendError} (h : (b.exchangeRate s).1 = .error cause) :
    ∃ reason, cause = .rateUnavailable reason := by
  rcases b.exchangeRate_cases s with ⟨rate, -, hrate⟩ | ⟨-, -, hsettled⟩
  · rw [hrate] at h
    cases h
  · rw [h] at hsettled
    exact hsettled.of_error

/-- The rate that cents are priced at, with the requests made to find it. -/
inductive PricedAt (b : Backend) (s : Surroundings) : List Request → Binary64 → Prop
  | fresh (rate : Binary64) (h : s.slot.HoldsWithin s.exchange.clock 300 rate) :
    PricedAt b s [] rate
  | fetched (price : Price) (hstale : ¬∃ rate, s.slot.HoldsWithin s.exchange.clock 300 rate)
    (hreply : s.exchange.turn.reply.Holds (Price.ofJson? 1) price)
    (hprice : price.price.isPositiveFinite = true) :
    PricedAt b s [b.client.priceRequest] price.price
  | fallback (rate : Binary64) (hstale : ¬∃ rate, s.slot.HoldsWithin s.exchange.clock 300 rate)
    (hreply : ¬∃ price, s.exchange.turn.reply.Holds (Price.ofJson? 1) price ∧
      price.price.isPositiveFinite = true)
    (h : s.slot.HoldsWithin (s.exchange.turn.clock.getD s.exchange.clock) 900 rate) :
    PricedAt b s [b.client.priceRequest] rate

/-- A rate that has been found is the one to price at. -/
theorem pricedAt_of_canSend (hsend : b.client.CanSend s.exchange) {rate : Binary64}
    (h : (b.exchangeRate s).1 = .ok rate) :
    ∃ lookups, s.exchange.Sends lookups (b.exchangeRate s).2.exchange ∧
      PricedAt b s lookups rate := by
  rcases b.exchangeRate_cases s with ⟨held, hheld, hrate⟩ | ⟨hstale, hexchange, hsettled⟩
  · rw [hrate] at h ⊢
    cases h
    exact ⟨[], .none _, .fresh rate hheld⟩
  · rw [h, Client.bitcoinPrice_of_canSend hsend] at hsettled
    rw [hexchange, Client.bitcoinPrice_of_canSend hsend]
    refine ⟨[b.client.priceRequest], .one _ _, ?_⟩
    rcases hsettled.of_ok with ⟨hanswer, hprice⟩ | ⟨⟨cause, hunusable⟩, hheld⟩
    · cases hjudge : Client.judge (Price.ofJson? 1) s.exchange.turn.reply with
      | error cause =>
        rw [hjudge] at hanswer
        cases hanswer
      | ok price =>
        rw [hjudge] at hanswer
        cases hanswer
        exact .fetched price hstale (Client.judge_eq_ok_iff.mp hjudge) hprice
    · refine .fallback rate hstale ?_ hheld
      rintro ⟨price, hreply, hprice⟩
      rw [Client.judge_eq_ok_iff.mpr hreply] at hunusable
      exact Bool.eq_false_iff.mp hunusable.not_rate hprice

/-- What an amount comes to: satoshis by the thousand, cents at the rate that has been found. -/
inductive Converts (b : Backend) (s : Surroundings) : Amount → UInt64 → Prop
  | sats (value msats : UInt64) (h : msats.toNat = 1000 * value.toNat) :
    Converts b s ⟨.sat, value⟩ msats
  | cents (value msats : UInt64) (rate : Binary64) (hrate : (b.exchangeRate s).1 = .ok rate)
    (h : Pricing.centsToMsats value rate = .ok msats) : Converts b s ⟨.usd, value⟩ msats

/-- Why an amount comes to nothing. -/
inductive Unpriced (b : Backend) (s : Surroundings) : Amount → BackendError → Prop
  | unit (amount : Amount) (h : amount.unit ∉ supportedUnits) :
    Unpriced b s amount (.unsupportedUnit amount.unit)
  | sats (value : UInt64) : Unpriced b s ⟨.sat, value⟩ .amountOverflow
  | rate (value : UInt64) (reason : ClientError)
    (h : (b.exchangeRate s).1 = .error (.rateUnavailable reason)) :
    Unpriced b s ⟨.usd, value⟩ (.rateUnavailable reason)
  | cents (value : UInt64) (rate : Binary64) (cause : BackendError)
    (hrate : (b.exchangeRate s).1 = .ok rate)
    (h : cause = .invalidRate rate ∨ cause = .amountOverflow) : Unpriced b s ⟨.usd, value⟩ cause

theorem toMsats_usd (b : Backend) (s : Surroundings) (value : UInt64) :
    b.toMsats ⟨.usd, value⟩ s =
      ((b.exchangeRate s).1.bind (Pricing.centsToMsats value), (b.exchangeRate s).2) := by
  simp only [toMsats]
  split
  next rate s' hrate => rw [hrate]; rfl
  next cause s' hrate => rw [hrate]; rfl

theorem toMsats_eq_ok_iff : (b.toMsats amount s).1 = .ok msats ↔ Converts b s amount msats := by
  obtain ⟨unit, value⟩ := amount
  constructor
  · intro h
    cases unit with
    | sat => exact .sats value msats (Pricing.satsToMsats_eq_ok_iff.mp h)
    | usd =>
      rw [toMsats_usd] at h
      cases hrate : (b.exchangeRate s).1 with
      | error cause =>
        rw [hrate] at h
        cases h
      | ok rate =>
        rw [hrate] at h
        exact .cents value msats rate hrate h
    | msat => cases h
    | eur => cases h
  · intro h
    cases h with
    | sats _ _ h => exact Pricing.satsToMsats_eq_ok_iff.mpr h
    | cents _ _ rate hrate h =>
      rw [toMsats_usd, hrate]
      exact h

theorem toMsats_eq_error {cause : BackendError} (h : (b.toMsats amount s).1 = .error cause) :
    Unpriced b s amount cause := by
  obtain ⟨unit, value⟩ := amount
  cases unit with
  | sat =>
    rw [Pricing.satsToMsats_eq_error h]
    exact .sats value
  | usd =>
    rw [toMsats_usd] at h
    cases hrate : (b.exchangeRate s).1 with
    | error cause' =>
      rw [hrate] at h
      cases h
      obtain ⟨reason, rfl⟩ := exchangeRate_eq_error hrate
      exact .rate value reason hrate
    | ok rate =>
      rw [hrate] at h
      exact .cents value rate cause hrate (Pricing.centsToMsats_eq_error h)
  | msat =>
    cases h
    exact .unit _ (by simp [supportedUnits])
  | eur =>
    cases h
    exact .unit _ (by simp [supportedUnits])

theorem toMsats_sends (b : Backend) (amount : Amount) (s : Surroundings) :
    ∃ lookups, s.exchange.Sends lookups (b.toMsats amount s).2.exchange ∧
      (lookups = [] ∨ amount.unit = .usd ∧ lookups = [b.client.priceRequest]) := by
  obtain ⟨unit, value⟩ := amount
  cases unit with
  | usd =>
    obtain ⟨lookups, hsends, hlookups⟩ := b.exchangeRate_sends s
    rw [toMsats_usd]
    exact ⟨lookups, hsends, hlookups.imp_right fun h => ⟨rfl, h⟩⟩
  | sat => exact ⟨[], .none _, .inl rfl⟩
  | msat => exact ⟨[], .none _, .inl rfl⟩
  | eur => exact ⟨[], .none _, .inl rfl⟩

/-- An amount that is charged is priced at the rate that the requests before the charge give. -/
theorem Converts.charged (h : Converts b s amount msats) (hsend : b.client.CanSend s.exchange)
    {lookups : List Request} (hlookup : s.exchange.Sends lookups (b.toMsats amount s).2.exchange) :
    amount.unit = .sat ∧ lookups = [] ∧ msats.toNat = 1000 * amount.value.toNat ∨
      amount.unit = .usd ∧ ∃ rate, PricedAt b s lookups rate ∧
        Pricing.centsToMsats amount.value rate = .ok msats := by
  cases h with
  | sats value _ hmsats => exact .inl ⟨rfl, hlookup.unique (.none _), hmsats⟩
  | cents value _ rate hrate hmsats =>
    obtain ⟨requests, hsends, hpriced⟩ := pricedAt_of_canSend hsend hrate
    rw [toMsats_usd] at hlookup
    rw [hlookup.unique hsends]
    exact .inr ⟨rfl, rate, hpriced, hmsats⟩

end LightningDeposit.Backend
