/-!
Labels of other scripts in ASCII: the ASCII characters first, then the others in the order of their
code points, each as a difference in variable-length digits of base 36 whose thresholds adapt.
-/

namespace LightningDeposit.Url.Punycode

def digitChar (d : Nat) : Char :=
  if d < 26 then Char.ofNat (97 + d) else Char.ofNat (22 + d)

def digitValue? (c : Char) : Option Nat :=
  if c.isLower then some (c.toNat - 97)
  else if c.isUpper then some (c.toNat - 65)
  else if c.isDigit then some (c.toNat - 22)
  else none

/-- The threshold of the digit at `place`, counted in steps of 36. -/
def threshold (place bias : Nat) : Nat :=
  if place ≤ bias then 1 else min 26 (place - bias)

/-- Divides by 35 until the difference is small, adding 36 for each division. -/
def shrink (delta place : Nat) : Nat × Nat :=
  if 455 < delta then shrink (delta / 35) (place + 36) else (delta, place)
termination_by delta

def adapt (delta count : Nat) (first : Bool) : Nat :=
  let halved := if first then delta / 700 else delta / 2
  let (small, place) := shrink (halved + halved / count) 0
  place + 36 * small / (small + 38)

/-- The digits of a difference, at most `fuel` before the last. -/
def digits (bias : Nat) : Nat → Nat → Nat → List Char
  | 0, _, _ => []
  | fuel + 1, place, q =>
    let t := threshold place bias
    if q < t then [digitChar q]
    else digitChar (t + (q - t) % (36 - t)) :: digits bias fuel (place + 36) ((q - t) / (36 - t))

structure Encoder where
  out : List Char
  delta : Nat
  bias : Nat
  handled : Nat

/-- One character of the label while the code point `point` is being inserted. -/
def Encoder.visit (basic point : Nat) (e : Encoder) (c : Char) : Encoder :=
  if c.toNat < point then { e with delta := e.delta + 1 }
  else if c.toNat = point then
    { out := e.out ++ digits e.bias (Nat.log2 e.delta + 2) 36 e.delta
      delta := 0
      bias := adapt e.delta (e.handled + 1) (e.handled == basic)
      handled := e.handled + 1 }
  else e

def encodePoints (label : List Char) (basic : Nat) : List Nat → Nat → Encoder → Encoder
  | [], _, e => e
  | point :: rest, next, e =>
    let raised := { e with delta := e.delta + (point - next) * (e.handled + 1) }
    let done := label.foldl (Encoder.visit basic point) raised
    encodePoints label basic rest (point + 1) { done with delta := done.delta + 1 }

def encode (label : List Char) : List Char :=
  let basic := label.filter fun c => decide (c.toNat < 0x80)
  let others := (label.filter fun c => decide (0x80 ≤ c.toNat)).map Char.toNat
  let points := (others.mergeSort).eraseDups
  let encoder := encodePoints label basic.length points 0x80 ⟨[], 0, 72, basic.length⟩
  basic ++ (if basic = [] then [] else ['-']) ++ encoder.out

/-- One difference: the sum so far and what follows the digits. -/
def readDigits? (bias : Nat) : List Char → Nat → Nat → Nat → Option (Nat × List Char)
  | [], _, _, _ => none
  | c :: rest, place, weight, sum =>
    (digitValue? c).bind fun d =>
      let t := threshold place bias
      if d < t then some (sum + d * weight, rest)
      else readDigits? bias rest (place + 36) (weight * (36 - t)) (sum + d * weight)

/-- Inserts the characters that the digits describe, at most `fuel` of them. -/
def insertPoints? : Nat → List Char → List Char → Nat → Nat → Nat → Option (List Char)
  | _, [], out, _, _, _ => some out
  | 0, _ :: _, _, _, _, _ => none
  | fuel + 1, code, out, point, index, bias =>
    (readDigits? bias code 36 1 index).bind fun (sum, rest) =>
      let count := out.length + 1
      let next := point + sum / count
      if next < 0x110000 ∧ ¬(0xD800 ≤ next ∧ next < 0xE000) then
        insertPoints? fuel rest (out.insertIdx (sum % count) (Char.ofNat next)) next
          (sum % count + 1) (adapt (sum - index) count (index == 0))
      else none

/-- The label of a code; the last hyphen ends its ASCII characters, of which there is one at least
if there is a hyphen. -/
def decode? (code : List Char) : Option (List Char) :=
  let tail := (code.reverse.takeWhile (· != '-')).reverse
  let basic := code.take (code.length - tail.length - 1)
  if basic.all fun c => decide (c.toNat < 0x80) then
    let inserted := if basic = [] then code else tail
    insertPoints? inserted.length inserted basic 0x80 0 72
  else none

end LightningDeposit.Url.Punycode
