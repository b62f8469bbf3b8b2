import LightningDeposit.Binary64.Arithmetic
import LightningDeposit.Error

/-!
Exchange rates, dollars for a bitcoin, with the time of their observation. A rate is fresh for five
minutes and usable for fifteen; a rate from the future has no age.
-/

namespace LightningDeposit

structure ExchangeRate where
  rate : Binary64
  observedAt : Nat
  deriving DecidableEq

namespace ExchangeRate

/-- A rate observed at a time in seconds; only a positive finite number is one. -/
def observed (rate : Binary64) (observedAt : Nat) : Except BackendError ExchangeRate :=
  if rate.isPositiveFinite then .ok ⟨rate, observedAt⟩ else .error (.invalidRate rate)

def age (r : ExchangeRate) (now : Nat) : Nat :=
  now - r.observedAt

def freshSeconds : Nat := 300

def usableSeconds : Nat := 900

/-- Served without asking for a newer one. -/
def isFresh (r : ExchangeRate) (now : Nat) : Bool :=
  decide (r.age now < freshSeconds)

/-- May stand in when a newer one cannot be had. -/
def isUsable (r : ExchangeRate) (now : Nat) : Bool :=
  decide (r.age now < usableSeconds)

theorem isUsable_of_isFresh {r : ExchangeRate} {now : Nat} (h : r.isFresh now = true) :
    r.isUsable now = true :=
  decide_eq_true (Nat.lt_trans (of_decide_eq_true h) (by decide))

end ExchangeRate

end LightningDeposit
