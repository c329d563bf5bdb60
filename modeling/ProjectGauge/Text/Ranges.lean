/-!
# Sets of characters as tables of code point ranges

A character property of a standard is data: an ascending list of inclusive ranges of code points.
Membership is a plain search, so that a property of a single character is decided by evaluation.
-/

namespace ProjectGauge.Text

/-- Inclusive ranges of code points, in ascending order. -/
abbrev Ranges := List (Nat × Nat)

def Ranges.contains (ranges : Ranges) (c : Char) : Bool :=
  ranges.any fun range => range.1 ≤ c.toNat && c.toNat ≤ range.2

end ProjectGauge.Text
