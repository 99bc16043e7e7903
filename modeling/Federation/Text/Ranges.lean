/-
Federation/Text/Ranges.lean

Sets of code points.

A set of code points is given by closed ranges, in ascending order and apart
from each other, so that it has as many members as the ranges have together.
-/

namespace Federation

/-- Closed ranges of code points. -/
abbrev Ranges := List (Nat × Nat)

namespace Ranges

/-- Whether a code point lies in one of the ranges. -/
def contains (ranges : Ranges) (n : Nat) : Bool :=
  ranges.any fun r => r.1 ≤ n && n ≤ r.2

/-- Whether the ranges ascend and leave a gap between them. -/
def isAscending : Ranges → Bool
  | [] => true
  | [r] => r.1 ≤ r.2
  | r :: s :: rest => r.1 ≤ r.2 && r.2 + 1 < s.1 && isAscending (s :: rest)

/-- The number of code points in the ranges. -/
def count (ranges : Ranges) : Nat := ranges.foldl (fun n r => n + (r.2 + 1 - r.1)) 0

end Ranges

end Federation
