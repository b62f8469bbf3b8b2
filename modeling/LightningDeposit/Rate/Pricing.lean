import LightningDeposit.Binary64.Arithmetic
import LightningDeposit.Error

/-!
Amounts in millisatoshis. Cents are priced with one multiplication and one division of doubles and
rounded up to whole satoshis; what does not fit 64 bits is refused.
-/

namespace LightningDeposit.Pricing

def msatsPerSat : UInt64 := 1000

def maxWord : Nat := UInt64.size - 1

/-- A product that fits a word. -/
def checkedMul (a b : UInt64) : Option UInt64 :=
  if a.toNat * b.toNat ≤ maxWord then some (a * b) else none

def satsToMsats (sats : UInt64) : Except BackendError UInt64 :=
  match checkedMul sats msatsPerSat with
  | some msats => .ok msats
  | none => .error .amountOverflow

/-- A hundred cents buy a hundred million satoshis for the rate, so a cent a million divided by
it. -/
def satsPerCentTimesRate : Binary64 := Binary64.ofNat 1000000

/-- The double from which on a number of satoshis is too large. -/
def satsLimit : Binary64 :=
  (Binary64.ofNat maxWord).div (Binary64.ofNat msatsPerSat.toNat)

/-- The price in satoshis before it is cut to a word, a whole number or infinite. -/
def wholeSats (cents : UInt64) (rate : Binary64) : Binary64 :=
  (((Binary64.ofNat cents.toNat).mul satsPerCentTimesRate).div rate).ceil

def centsToMsats (cents : UInt64) (rate : Binary64) : Except BackendError UInt64 :=
  if !rate.isPositiveFinite then .error (.invalidRate rate)
  else if cents = 0 then .ok 0
  else
    let sats := wholeSats cents rate
    if !sats.isFinite || satsLimit.le sats then .error .amountOverflow
    else satsToMsats sats.toWord

end LightningDeposit.Pricing
