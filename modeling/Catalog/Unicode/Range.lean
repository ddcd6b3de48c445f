/-!
Sets of code points as lists of closed ranges.
-/

namespace Catalog.Unicode

/-- Whether `n` lies in one of the closed ranges. -/
def inRanges (ranges : List (Nat × Nat)) (n : Nat) : Bool :=
  ranges.any fun (first, last) => first ≤ n && n ≤ last

end Catalog.Unicode
