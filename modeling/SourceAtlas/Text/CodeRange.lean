/-!
# Sets of code points

A property of characters is given as a table of inclusive ranges of code points.
-/

namespace SourceAtlas

/-- A set of code points, as inclusive ranges. -/
structure CodeRanges where
  ranges : List (Nat × Nat)

namespace CodeRanges

/-- Whether a character lies in one of the ranges. -/
def contains (set : CodeRanges) (c : Char) : Bool :=
  set.ranges.any fun range => range.1 ≤ c.toNat && c.toNat ≤ range.2

end CodeRanges

end SourceAtlas
