/-
  Sets of characters given as ranges of code points.
-/

namespace PotCatalog

/-- A set of code points, as ranges with their ends included. -/
abbrev CodeRanges := List (Nat × Nat)

/-- Whether a character lies in one of the ranges. -/
def CodeRanges.contains (ranges : CodeRanges) (c : Char) : Bool :=
  ranges.any fun (low, high) => low ≤ c.toNat && c.toNat ≤ high

end PotCatalog
