/-! Sets of characters, given by the ranges of their code points in increasing order. -/
namespace Polyglot.Text

/-- Inclusive ranges of code points. -/
abbrev Ranges := List (Nat × Nat)

/-- Whether a code point lies in one of the ranges. The search stops at the first range above it. -/
def Ranges.contains (code : Nat) : Ranges → Bool
  | [] => false
  | (low, high) :: higher => low ≤ code && (code ≤ high || Ranges.contains code higher)

end Polyglot.Text
