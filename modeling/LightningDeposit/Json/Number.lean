import LightningDeposit.Binary64.Arithmetic
import LightningDeposit.Binary64.Shortest
import LightningDeposit.Json.Basic

/-!
The number that a literal denotes: a 64-bit word, a negative whole number of 64 bits, or a double.
A double is read from the leading digits that fit a word, which are converted and then multiplied
or divided by a power of ten; each of these steps rounds.
-/

namespace LightningDeposit.Json

/-- A number after reading; `negative n` is `-n` and `n` is not zero. -/
inductive Number where
  | natural (n : UInt64)
  | negative (n : Nat)
  | double (x : Binary64)
  deriving DecidableEq

/-- The leading digits of a numeral that fit a word, and the power of ten that stands for the
digits after them. -/
structure Scaled where
  digits : Nat
  exponent : Int

namespace Scaled

/-- One more digit before the point. Once a digit does not fit, none after it is kept. -/
def pushWhole : Scaled × Bool → Char → Scaled × Bool
  | (s, full), c =>
    let digits := s.digits * 10 + (c.toNat - 48)
    if full || decide (UInt64.size ≤ digits) then (⟨s.digits, s.exponent + 1⟩, true)
    else (⟨digits, s.exponent⟩, false)

/-- One more digit after the point; one that does not fit ends the reading. -/
def pushPlace : Scaled × Bool → Char → Scaled × Bool
  | (s, full), c =>
    let digits := s.digits * 10 + (c.toNat - 48)
    if full || decide (UInt64.size ≤ digits) then (s, true)
    else (⟨digits, s.exponent - 1⟩, false)

def ofLiteral (literal : NumberLiteral) : Scaled :=
  let whole := (literal.whole.foldl pushWhole (⟨0, 0⟩, false)).1
  let all := ((literal.places.getD []).foldl pushPlace (whole, false)).1
  match literal.exponent with
  | none => all
  | some (negative, digits) =>
    let n : Int := Nat.ofDigitChars 10 digits 0
    ⟨all.digits, if negative then all.exponent - n else all.exponent + n⟩

/-- Division by a power of ten in steps that a double can hold. -/
def divide (x : Binary64) (power : Nat) : Binary64 :=
  if power ≤ 308 then x.div (Binary64.ofNat (Nat.pow 10 power))
  else if x.isZero then x
  else divide (x.div (Binary64.ofNat (Nat.pow 10 308))) (power - 308)
termination_by power

/-- The double of a scaled numeral; one beyond all doubles has none. -/
def toBinary64? (s : Scaled) : Option Binary64 :=
  let x := Binary64.ofNat s.digits
  if s.exponent < 0 then some (divide x (-s.exponent).toNat)
  else if x.isZero then some x
  else if 308 < s.exponent then none
  else
    let product := x.mul (Binary64.ofNat (Nat.pow 10 s.exponent.toNat))
    if product.isInfinite then none else some product

end Scaled

/-- The double of a literal, its sign put on last. -/
def doubleOfLiteral? (literal : NumberLiteral) : Option Binary64 :=
  (Scaled.ofLiteral literal).toBinary64?.map fun x => if literal.negative then x.neg else x

/-- A whole literal is a word or a negative number if it fits 64 bits, but minus zero is a
double. -/
def numberOfLiteral? (literal : NumberLiteral) : Option Number :=
  let n := Nat.ofDigitChars 10 literal.whole 0
  if literal.places.isSome || literal.exponent.isSome then
    (doubleOfLiteral? literal).map .double
  else if literal.negative then
    if 0 < n ∧ n ≤ Nat.pow 2 63 then some (.negative n) else (doubleOfLiteral? literal).map .double
  else if n < UInt64.size then some (.natural (UInt64.ofNat n))
  else (doubleOfLiteral? literal).map .double

namespace Number

/-- The double nearest to the number. -/
def toBinary64 : Number → Binary64
  | .natural n => Binary64.ofNat n.toNat
  | .negative n => (Binary64.ofNat n).neg
  | .double x => x

/-- The digits of a double: plain while the point lies within or shortly before them, with an
exponent otherwise, and at least one place after a whole number. -/
def doubleLiteral (x : Binary64) : NumberLiteral :=
  let d := x.shortest
  let digits := Nat.toDigits 10 d.digits
  let point := (digits.length : Int) + d.exponent
  if x.isZero then ⟨x.negative, ['0'], some ['0'], none⟩
  else if 0 ≤ d.exponent ∧ point ≤ 16 then
    ⟨x.negative, digits ++ List.replicate d.exponent.toNat '0', some ['0'], none⟩
  else if 0 < point ∧ point ≤ 16 then
    ⟨x.negative, digits.take point.toNat, some (digits.drop point.toNat), none⟩
  else if -5 < point ∧ point ≤ 0 then
    ⟨x.negative, ['0'], some (List.replicate (-point).toNat '0' ++ digits), none⟩
  else
    let exponent := point - 1
    ⟨x.negative, digits.take 1, if digits.length = 1 then none else some (digits.drop 1),
      some (decide (exponent < 0), Nat.toDigits 10 exponent.natAbs)⟩

/-- The literal that a number is written as; what is not finite has none. -/
def literal? : Number → Option NumberLiteral
  | .natural n => some ⟨false, Nat.toDigits 10 n.toNat, none, none⟩
  | .negative n => some ⟨true, Nat.toDigits 10 n, none, none⟩
  | .double x => if x.isFinite then some (doubleLiteral x) else none

end Number

end LightningDeposit.Json
