import LightningDeposit.Binary64.Basic

/-!
Products, quotients, ceilings and comparisons of doubles. Each is computed exactly and rounded
once.
-/

namespace LightningDeposit.Binary64

def neg (x : Binary64) : Binary64 :=
  ofMagnitude (!x.negative) x.magnitude

def mul (x y : Binary64) : Binary64 :=
  let negative := x.negative != y.negative
  if x.isNaN || y.isNaN then nan
  else if x.isInfinite || y.isInfinite then
    if x.isZero || y.isZero then nan else infinity negative
  else nearest negative (x.units * y.units) one

def div (x y : Binary64) : Binary64 :=
  let negative := x.negative != y.negative
  if x.isNaN || y.isNaN then nan
  else if x.isInfinite then
    if y.isInfinite then nan else infinity negative
  else if y.isInfinite then zero negative
  else if y.isZero then
    if x.isZero then nan else infinity negative
  else nearest negative (x.units * one) y.units

/-- The integer part of the absolute value of a finite number. -/
def wholePart (x : Binary64) : Nat :=
  x.units / one

/-- The least integer not below `x`; what lies between minus one and zero becomes minus zero. -/
def ceil (x : Binary64) : Binary64 :=
  if !x.isFinite then x
  else if x.negative then nearest true (x.wholePart * one) 1
  else nearest false ((x.units + (one - 1)) / one * one) 1

/-- The place of a number on the line of all doubles, both zeros at the origin. -/
def rank (x : Binary64) : Int :=
  if x.negative then -(x.magnitude : Int) else x.magnitude

/-- Nothing is at most a NaN, nor a NaN at most anything. -/
def le (x y : Binary64) : Bool :=
  !x.isNaN && !y.isNaN && decide (x.rank ≤ y.rank)

/-- The integer part as a 64-bit word: what is too large gives the largest word, what is negative
or not a number gives zero. -/
def toWord (x : Binary64) : UInt64 :=
  if x.isNaN || x.negative then 0
  else if x.isFinite then UInt64.ofNat (min x.wholePart (UInt64.size - 1))
  else UInt64.ofNat (UInt64.size - 1)

/-- A rate or price is usable when it is a positive finite number. -/
def isPositiveFinite (x : Binary64) : Bool :=
  x.isFinite && !x.negative && !x.isZero

end LightningDeposit.Binary64
