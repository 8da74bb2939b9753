/-!
# Tables of code point ranges

A character class given as an increasing table of closed ranges.

## Main definitions

* `inRanges`: membership, decided by the first range that does not end before the code point
-/

namespace PromptLoop.Text

/-- Membership of a code point in an increasing table of closed ranges. -/
def inRanges : List (Nat × Nat) → Nat → Bool
  | [], _ => false
  | (lo, hi) :: rest, n => if n < lo then false else n ≤ hi || inRanges rest n

@[simp] theorem inRanges_nil (n : Nat) : inRanges [] n = false := rfl

end PromptLoop.Text
