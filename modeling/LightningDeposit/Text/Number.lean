/-!
Decimal numerals of 64-bit words: at least one ASCII digit, leading zeros allowed, and a plus sign
allowed in front where a numeral stands in a text of its own.
-/

namespace LightningDeposit.Text

/-- The value of a run of digits; nothing else is a numeral. -/
def readNat? (s : List Char) : Option Nat :=
  if s ≠ [] ∧ s.all Char.isDigit then some (Nat.ofDigitChars 10 s 0) else none

/-- A number that fits a 64-bit word. -/
def wordOfNat? (n : Nat) : Option UInt64 :=
  if n < UInt64.size then some (UInt64.ofNat n) else none

def readWord? : List Char → Option UInt64
  | '+' :: digits => (readNat? digits).bind wordOfNat?
  | digits => (readNat? digits).bind wordOfNat?

/-- The shortest numeral of a number. -/
def numeral (n : Nat) : List Char :=
  Nat.toDigits 10 n

def ofNat (n : Nat) : String :=
  String.ofList (numeral n)

end LightningDeposit.Text
