import PromptLoop.Failure.Basic

/-!
# Indices

The numbers that index a text or a sequence are those of 64 bits with a sign. Another number is
refused where an index is asked for, whatever would be found there.

## Main definitions

* `indexBound`: where the indices end
* `IsIndex`: a number is an index
* `noIndex`: what a number that is none raises
-/

namespace PromptLoop

/-- Indices go from `-indexBound` up to but without `indexBound`, the 63rd power of two. -/
def indexBound : Int := 0x8000000000000000

/-- A number that can index. -/
def IsIndex (n : Int) : Prop := -indexBound ≤ n ∧ n < indexBound

instance (n : Int) : Decidable (IsIndex n) := inferInstanceAs (Decidable (_ ∧ _))

/-- A number that is no index was given where one is asked for. -/
def noIndex (kind : FailureKind) : Failure :=
  .saying kind "cannot fit 'int' into an index-sized integer"

end PromptLoop
