/-
# Sets of characters given by code point ranges

A property of characters is stored as a list of inclusive ranges of code
points.  Membership is a plain scan, so that a closed question about one
character is settled by evaluation.
-/

namespace Flowchart

/-- A finite union of inclusive code point ranges `(first, last)`. -/
abbrev CodeRanges := List (Nat × Nat)

namespace CodeRanges

/-- Whether the code point of `c` lies in one of the ranges. -/
def contains (rs : CodeRanges) (c : Char) : Bool :=
  rs.any fun r => r.1 ≤ c.toNat && c.toNat ≤ r.2

end CodeRanges

end Flowchart
