import LightningDeposit.Binary64.Basic

/-!
The shortest decimal that reads back as a given double. The reals that round to `x` form an
interval; the coarsest power of ten with a multiple inside it decides the number of digits, and of
its multiples the one nearest to `x` is taken, the larger on a tie.
-/

namespace LightningDeposit

/-- The number `digits * 10 ^ exponent`. -/
structure Decimal where
  digits : Nat
  exponent : Int
  deriving DecidableEq

namespace Decimal

/-- The number as a ratio of naturals. -/
def ratio (d : Decimal) : Nat × Nat :=
  if 0 ≤ d.exponent then (d.digits * Nat.pow 10 d.exponent.toNat, 1)
  else (d.digits, Nat.pow 10 (-d.exponent).toNat)

end Decimal

namespace Binary64

/-- The ends of the rounding interval in quarter units. Below a power of two the neighbour is half
as far as above it. -/
def roundingInterval (x : Binary64) : Nat × Nat :=
  let step := Nat.pow 2 x.scale
  let below := if x.fraction = 0 ∧ 1 < x.exponentField then step else 2 * step
  (4 * x.units - below, 4 * x.units + 2 * step)

/-- Whether reading `d` gives `x`: it lies inside the interval, or at an end when the significand
is even. -/
def readsBack (x : Binary64) (d : Decimal) : Bool :=
  let (num, den) := d.ratio
  let (low, high) := x.roundingInterval
  let value := 4 * num * one
  if x.significand % 2 = 0 then decide (low * den ≤ value ∧ value ≤ high * den)
  else decide (low * den < value ∧ value < high * den)

/-- The multiple of `10 ^ exponent` that is nearest to `x` among those that read back as `x`. -/
def shortestOn (x : Binary64) (exponent : Int) : Option Decimal :=
  let (num, den) :=
    if 0 ≤ exponent then (x.units, one * Nat.pow 10 exponent.toNat)
    else (x.units * Nat.pow 10 (-exponent).toNat, one)
  let floor : Decimal := ⟨num / den, exponent⟩
  let above : Decimal := ⟨num / den + 1, exponent⟩
  match x.readsBack floor, x.readsBack above with
  | true, true => some (if 2 * (num % den) < den then floor else above)
  | true, false => some floor
  | false, true => some above
  | false, false => none

/-- The shortest decimal of a finite number's absolute value; zero is `0 * 10 ^ 0`. -/
def shortest (x : Binary64) : Decimal :=
  if x.isZero then ⟨0, 0⟩
  else ((List.range 634).findSome? fun (i : Nat) => x.shortestOn (309 - i)).getD ⟨0, 0⟩

/-- The text of a number without an exponent: the shortest digits, padded with zeros to the
point, and no point after a whole number. -/
def text (x : Binary64) : String :=
  let sign := if x.negative then "-" else ""
  if x.isNaN then "NaN"
  else if x.isInfinite then sign ++ "inf"
  else
    let d := x.shortest
    let digits := Nat.toDigits 10 d.digits
    if 0 ≤ d.exponent then
      let zeros := if x.isZero then 0 else d.exponent.toNat
      sign ++ String.ofList (digits ++ List.replicate zeros '0')
    else
      let places := (-d.exponent).toNat
      let padded := List.replicate (places + 1 - digits.length) '0' ++ digits
      sign ++ String.ofList (padded.take (padded.length - places)) ++ "." ++
        String.ofList (padded.drop (padded.length - places))

end Binary64

end LightningDeposit
