import NftProbe.Text.Ranges

/-!
# Tables packed in text

The larger Unicode tables are kept as text and read once, when the program starts. The text is
a list of entries separated by spaces and line breaks. An entry is a range of code points in
hexadecimal, `S` for one code point or `S-E` for the closed range from `S` to `E`, then `:` and
the value of the range; an entry without a value stands for a range of a class. Entries come in
increasing order and do not overlap, so they read straight into the sorted arrays that `Ranges`
and `RangeMap` search.

A table of thousands of entries kept as text is one literal for the compiler and the kernel,
where an array written out would be a term per entry.
-/

set_option autoImplicit false

namespace NftProbe.Text.Packed

/-- The value of a hexadecimal digit, in either case. -/
def hexDigit? (c : Char) : Option Nat :=
  if '0' ≤ c && c ≤ '9' then some (c.toNat - '0'.toNat)
  else if 'A' ≤ c && c ≤ 'F' then some (c.toNat - 'A'.toNat + 10)
  else if 'a' ≤ c && c ≤ 'f' then some (c.toNat - 'a'.toNat + 10)
  else none

/-- A hexadecimal number of at least one digit. -/
def hex? (text : String) : Option Nat :=
  if text.isEmpty then none
  else text.toList.foldlM (fun acc c => (hexDigit? c).map (16 * acc + ·)) 0

/-- A list of hexadecimal code points separated by `.`. -/
def codePoints? (text : String) : Option (List Nat) :=
  (text.splitOn ".").mapM hex?

/-- A range written `S` or `S-E`. -/
def range? (text : String) : Option (Nat × Nat) :=
  match text.splitOn "-" with
  | [one] => (hex? one).map fun point => (point, point)
  | [first, last] => do pure (← hex? first, ← hex? last)
  | _ => none

/-- An entry: its range and the text of its value, empty when it has none. -/
def entryOf? (word : String) : Option (Nat × Nat × String) :=
  match word.splitOn ":" with
  | [range] => (range? range).map fun (first, last) => (first, last, "")
  | [range, value] => (range? range).map fun (first, last) => (first, last, value)
  | _ => none

/-- The words of a packed text: what stands between spaces and line breaks. -/
def words (text : String) : List String :=
  ((text.replace "\n" " ").splitOn " ").filter (!·.isEmpty)

/-- Reads a table whose values `value?` reads. An entry that does not read is left out. -/
def read {α : Type} (text : String) (value? : String → Option α) : RangeMap α :=
  ((words text).filterMap fun word => do
    let (first, last, valueText) ← entryOf? word
    pure (first, last, ← value? valueText)).toArray

/-- Reads a table of ranges without values. -/
def readRanges (text : String) : Ranges :=
  ((words text).filterMap fun word =>
    (entryOf? word).map fun (first, last, _) => (first, last)).toArray

end NftProbe.Text.Packed
