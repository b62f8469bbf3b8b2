/-!
White space as Unicode's property White_Space has it, and trimming at both ends.
-/

namespace LightningDeposit.Text

def isBlank (c : Char) : Bool :=
  let n := c.toNat
  (9 ≤ n && n ≤ 13) || n == 0x20 || n == 0x85 || n == 0xA0 || n == 0x1680 ||
    (0x2000 ≤ n && n ≤ 0x200A) || n == 0x2028 || n == 0x2029 || n == 0x202F || n == 0x205F ||
    n == 0x3000

/-- Drops what satisfies `p` from both ends. -/
def strip (p : Char → Bool) (s : List Char) : List Char :=
  ((s.dropWhile p).reverse.dropWhile p).reverse

def trimChars (s : List Char) : List Char :=
  strip isBlank s

def trim (s : String) : String :=
  String.ofList (trimChars s.toList)

end LightningDeposit.Text
