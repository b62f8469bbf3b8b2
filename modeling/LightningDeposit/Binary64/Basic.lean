/-!
Binary64 numbers, held as their 64 bits. A finite number is a natural number of units of
`2 ^ (-1074)`, so sizes are exact, and `nearest` turns an exact ratio of units back into bits:
the closest double, a half going to the even one.
-/

namespace LightningDeposit

structure Binary64 where
  bits : UInt64
  deriving DecidableEq

namespace Binary64

def negative (x : Binary64) : Bool :=
  decide (Nat.pow 2 63 ≤ x.bits.toNat)

/-- The bits below the sign; of two numbers the one of larger absolute value has more. -/
def magnitude (x : Binary64) : Nat :=
  x.bits.toNat % Nat.pow 2 63

def exponentField (x : Binary64) : Nat :=
  x.magnitude / Nat.pow 2 52

def fraction (x : Binary64) : Nat :=
  x.magnitude % Nat.pow 2 52

def isFinite (x : Binary64) : Bool :=
  decide (x.exponentField < 2047)

def isNaN (x : Binary64) : Bool :=
  decide (x.exponentField = 2047 ∧ x.fraction ≠ 0)

def isInfinite (x : Binary64) : Bool :=
  decide (x.exponentField = 2047 ∧ x.fraction = 0)

def isZero (x : Binary64) : Bool :=
  decide (x.magnitude = 0)

/-- The digits of a finite number: `significand * 2 ^ scale` units. -/
def significand (x : Binary64) : Nat :=
  if x.exponentField = 0 then x.fraction else Nat.pow 2 52 + x.fraction

def scale (x : Binary64) : Nat :=
  x.exponentField - 1

/-- The absolute value of a finite number in units of `2 ^ (-1074)`. -/
def units (x : Binary64) : Nat :=
  x.significand * Nat.pow 2 x.scale

/-- The number of units in one. -/
def one : Nat := Nat.pow 2 1074

def ofMagnitude (negative : Bool) (magnitude : Nat) : Binary64 :=
  ⟨UInt64.ofNat ((if negative then Nat.pow 2 63 else 0) + magnitude)⟩

/-- The magnitude of the infinities, above that of every finite number. -/
def infiniteMagnitude : Nat := 2047 * Nat.pow 2 52

def nan : Binary64 := ofMagnitude false (infiniteMagnitude + Nat.pow 2 51)

def infinity (negative : Bool) : Binary64 := ofMagnitude negative infiniteMagnitude

def zero (negative : Bool) : Binary64 := ofMagnitude negative 0

/-- The integer nearest to `num / den`, a half going to the even one. -/
def roundHalfEven (num den : Nat) : Nat :=
  let floor := num / den
  let rest := 2 * (num % den)
  if rest < den then floor
  else if den < rest then floor + 1
  else floor + floor % 2

/-- The magnitude of the double nearest to `num / den` units. Rounding at the scale of the
quotient's leading bit may carry into the next binade, which the sum of both parts absorbs. -/
def nearestMagnitude (num den : Nat) : Nat :=
  let scale := Nat.log2 (num / den) - 52
  min infiniteMagnitude (scale * Nat.pow 2 52 + roundHalfEven num (den * Nat.pow 2 scale))

def nearest (negative : Bool) (num den : Nat) : Binary64 :=
  ofMagnitude negative (nearestMagnitude num den)

def ofNat (n : Nat) : Binary64 :=
  nearest false (n * one) 1

end Binary64

end LightningDeposit
