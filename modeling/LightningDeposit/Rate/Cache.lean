import LightningDeposit.Rate.Exchange

/-!
The slot that holds the last exchange rate. A look-up begins by reading the slot; unless the rate in
it is fresh, a source is asked, and the look-up ends by reading the slot again. Between the two
others may have stored a rate and the clock may have moved.
-/

namespace LightningDeposit

/-- The last rate stored, however old. -/
abbrev RateSlot := Option ExchangeRate

namespace RateSlot

/-- The rate that is served at once; none if the source has to be asked. -/
def fresh? (slot : RateSlot) (now : Nat) : Option Binary64 :=
  match slot with
  | some cached => if cached.isFresh now then some cached.rate else none
  | none => none

/-- What a source's answer is worth: a rate must be a positive finite number. -/
def checked (answer : Except ClientError Binary64) : Except ClientError Binary64 :=
  match answer with
  | .ok rate => if rate.isPositiveFinite then .ok rate else .error (.invalidRate rate)
  | .error cause => .error cause

/-- Ends a look-up whose source has answered, with the slot and the clock as they are then. A good
rate is stored and served; without one a usable rate in the slot stands in. -/
def settle (slot : RateSlot) (now : Nat) (answer : Except ClientError Binary64) :
    Except BackendError Binary64 × RateSlot :=
  match checked answer with
  | .ok rate => (.ok rate, some ⟨rate, now⟩)
  | .error cause =>
    match slot with
    | some cached =>
      if cached.isUsable now then (.ok cached.rate, slot)
      else (.error (.rateUnavailable cause), slot)
    | none => (.error (.rateUnavailable cause), slot)

end RateSlot

end LightningDeposit
