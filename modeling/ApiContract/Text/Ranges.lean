/-!
# Ranges of characters

A class of characters is given by the ranges of their numbers, in increasing order and apart
from one another, so that a character is found by halving.

## Main definitions

* `Text.inRanges` — whether one of the ranges of a table holds a number
-/

namespace ApiContract.Text

/-- Whether one of the ranges between two places of a table holds a number. -/
def inRangesBetween (table : Array (Nat × Nat)) (n low : Nat) : Nat → Nat → Bool
  | 0, _ => false
  | fuel + 1, high =>
    if low < high then
      let middle := (low + high) / 2
      let (first, last) := table.getD middle (0, 0)
      if n < first then inRangesBetween table n low fuel middle
      else if last < n then inRangesBetween table n (middle + 1) fuel high
      else true
    else false

/-- Whether one of the ranges of a table holds a number. -/
def inRanges (table : Array (Nat × Nat)) (n : Nat) : Bool :=
  inRangesBetween table n 0 table.size table.size

end ApiContract.Text
