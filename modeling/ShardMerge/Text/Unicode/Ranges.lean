/-!
# Ranges of code points

A property of characters is kept as the ascending list of its ranges of code points.  `inRanges`
looks a character up and stops at the first range that begins above it.
-/

namespace ShardMerge.Text.Unicode

/-- A set of code points as ascending, disjoint ranges, ends included. -/
abbrev Ranges := List (Nat × Nat)

/-- Whether a code point lies in one of the ascending ranges. -/
def inRanges (n : Nat) : Ranges → Bool
  | [] => false
  | (first, last) :: rest => if n < first then false else n ≤ last || inRanges n rest

end ShardMerge.Text.Unicode
