/-!
# 64-bit unsigned arithmetic

Counters, ids, gas and lengths are 64-bit unsigned quantities, held as `Nat`. The program
checks its additions and multiplications on them: a result above `u64Max` halts it with
`Overflow`. Offsets into data saturate instead, with `saturatingAdd`.
-/

set_option autoImplicit false

namespace NftProbe

/-- 2^64: the 64-bit unsigned integers are the numbers below it. -/
def u64Bound : Nat := Nat.pow 2 64

/-- The largest 64-bit unsigned integer. -/
def u64Max : Nat := u64Bound - 1

/-- 2^63: the magnitude of the most negative 64-bit signed integer. -/
def i64MinMagnitude : Nat := Nat.pow 2 63

/-- An arithmetic overflow, which halts the program. -/
inductive Overflow
  | add
  | mul
deriving DecidableEq, Repr

/-- The text the program stops with. -/
def Overflow.message : Overflow → String
  | .add => "attempt to add with overflow"
  | .mul => "attempt to multiply with overflow"

namespace U64

/-- The sum, or an overflow above `u64Max`. -/
def checkedAdd (a b : Nat) : Except Overflow Nat :=
  if a + b ≤ u64Max then .ok (a + b) else .error .add

/-- The product, or an overflow above `u64Max`. -/
def checkedMul (a b : Nat) : Except Overflow Nat :=
  if a * b ≤ u64Max then .ok (a * b) else .error .mul

/-- The sum, stopped at `u64Max`. -/
def saturatingAdd (a b : Nat) : Nat :=
  min (a + b) u64Max

end U64

end NftProbe
