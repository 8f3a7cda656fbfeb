/-!
# Sorted tables of code point ranges

A character class from the Unicode database is stored as an array of closed ranges `(first,
last)`, sorted and disjoint. `Ranges.contains` finds a code point by binary search over the
array; its recursion shrinks the window `hi - lo` at every step.

A property with values, such as a combining class, is a `RangeMap`: the same ranges, each with
its value. `RangeMap.find?` is the same search and gives the value of the range that holds the
code point, if one does.
-/

set_option autoImplicit false

namespace NftProbe.Text

/-- A sorted array of disjoint closed ranges of code points. -/
abbrev Ranges := Array (Nat × Nat)

namespace Ranges

/-- Whether `point` lies in the ranges with index in `[lo, hi)`. -/
def containsIn (table : Ranges) (point : Nat) (lo hi : Nat) : Bool :=
  if lo < hi then
    let mid := (lo + hi) / 2
    let range := table.getD mid (1, 0)
    if point < range.1 then containsIn table point lo mid
    else if range.2 < point then containsIn table point (mid + 1) hi
    else true
  else false
termination_by hi - lo

/-- Whether `point` lies in one of the ranges of the table. -/
def contains (table : Ranges) (point : Nat) : Bool :=
  containsIn table point 0 table.size

end Ranges

/-- Sorted disjoint closed ranges of code points, each with a value. -/
abbrev RangeMap (α : Type) := Array (Nat × Nat × α)

namespace RangeMap

/-- The value of the range with index in `[lo, hi)` that holds `point`. -/
def findIn {α : Type} (table : RangeMap α) (point : Nat) (lo hi : Nat) : Option α :=
  if lo < hi then
    let mid := (lo + hi) / 2
    match table[mid]? with
    | none => none
    | some (first, last, value) =>
      if point < first then findIn table point lo mid
      else if last < point then findIn table point (mid + 1) hi
      else some value
  else none
termination_by hi - lo

/-- The value of the range that holds `point`, if one does. -/
def find? {α : Type} (table : RangeMap α) (point : Nat) : Option α :=
  findIn table point 0 table.size

end RangeMap

end NftProbe.Text
