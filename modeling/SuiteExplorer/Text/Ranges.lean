/-
  SuiteExplorer/Text/Ranges.lean
  ==============================
  Classes of characters as tables of ranges: in ascending order, both ends
  included. A table is searched by halving.
-/

namespace SuiteExplorer.Text

/-- The number lies in one of the ranges of `table` between the positions `lo`
    (inclusive) and `hi` (exclusive); `fuel` bounds the number of halvings. -/
def inRanges (table : Array (Nat × Nat)) (n : Nat) : Nat → Nat → Nat → Bool
  | 0, _, _ => false
  | fuel + 1, lo, hi =>
    if lo < hi then
      let mid := (lo + hi) / 2
      match table[mid]? with
      | none => false
      | some (a, b) =>
        if n < a then inRanges table n fuel lo mid
        else if b < n then inRanges table n fuel (mid + 1) hi
        else true
    else false

/-- A character lies in one of the ranges of a table, which has less than
    2 ^ 32 of them. -/
def isInRanges (table : Array (Nat × Nat)) (c : Char) : Bool :=
  inRanges table c.toNat 32 0 table.size

end SuiteExplorer.Text
