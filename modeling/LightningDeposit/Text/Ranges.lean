/-!
Sets of code points as lists of ranges. Ranges include both ends and ascend.
-/

namespace LightningDeposit.Text

/-- Looks no further than the first range that starts above `n`. -/
def inRanges (n : Nat) : List (Nat × Nat) → Bool
  | [] => false
  | (low, high) :: rest =>
    if n < low then false else if n ≤ high then true else inRanges n rest

end LightningDeposit.Text
