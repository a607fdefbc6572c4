/-
# FilterQuery.Text.Ranges -- ranges of code points

A class of characters that is too large to be named one by one is a list of ranges of
code points, from the first to the last of each.
-/

namespace FilterQuery

/-- Whether a character is in one of some ranges. -/
def inRanges (ranges : List (Nat × Nat)) (c : Char) : Bool :=
  ranges.any fun range => range.1 ≤ c.toNat && c.toNat ≤ range.2

end FilterQuery
