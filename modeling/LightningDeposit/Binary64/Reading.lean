import LightningDeposit.Binary64.Arithmetic
import LightningDeposit.Text.Number

/-!
Reading decimal numerals as doubles: the exact decimal value, rounded once. A numeral too large
for any double reads as an infinity.
-/

namespace LightningDeposit.Binary64

/-- The double nearest to `digits * 10 ^ exponent`. Decimals far outside the range of doubles are
settled before any large power is computed. -/
def ofDecimal (negative : Bool) (digits : Nat) (exponent : Int) : Binary64 :=
  if digits = 0 then zero negative
  else if 310 < exponent then infinity negative
  else if exponent + (Nat.log2 digits + 1) < -330 then zero negative
  else if 0 ≤ exponent then nearest negative (digits * Nat.pow 10 exponent.toNat * one) 1
  else nearest negative (digits * one) (Nat.pow 10 (-exponent).toNat)

/-- The exponent part of a numeral: nothing, or an `e` and a whole number with an optional
sign. -/
def readExponent? : List Char → Option Int
  | [] => some 0
  | e :: rest =>
    if e = 'e' ∨ e = 'E' then
      match rest with
      | '+' :: digits => (Text.readNat? digits).map Int.ofNat
      | '-' :: digits => (Text.readNat? digits).map fun n => -(n : Int)
      | digits => (Text.readNat? digits).map Int.ofNat
    else none

/-- A numeral without its sign: digits with an optional point, at least one digit in all, and an
optional exponent. -/
def readUnsigned? (negative : Bool) (s : List Char) : Option Binary64 :=
  let whole := s.takeWhile Char.isDigit
  let rest := s.dropWhile Char.isDigit
  let (places, tail) :=
    match rest with
    | '.' :: after => (after.takeWhile Char.isDigit, after.dropWhile Char.isDigit)
    | _ => ([], rest)
  if whole = [] ∧ places = [] then none
  else (readExponent? tail).map fun exponent =>
    ofDecimal negative (Nat.ofDigitChars 10 (whole ++ places) 0) (exponent - places.length)

/-- The names of what is not finite are read in any letter case. -/
def readMagnitude? (negative : Bool) (s : List Char) : Option Binary64 :=
  let name := s.map Char.toLower
  if name = "inf".toList ∨ name = "infinity".toList then some (infinity negative)
  else if name = "nan".toList then some nan
  else readUnsigned? negative s

/-- The double that a numeral denotes. -/
def read? : List Char → Option Binary64
  | '+' :: rest => readMagnitude? false rest
  | '-' :: rest => readMagnitude? true rest
  | s => readMagnitude? false s

end LightningDeposit.Binary64
