import NftProbe.Bytes
import NftProbe.U64

/-!
# 256-bit words

`Word` is an unsigned 256-bit integer, the unit of the EVM and of the ABI. It is written as one
32-byte big-endian word. `Word.toU64?` is the narrowing to 64 bits, which refuses a larger
value rather than dropping its high bits.
-/

set_option autoImplicit false

namespace NftProbe

/-- 2^256: the 256-bit unsigned integers are the numbers below it. -/
def wordBound : Nat := Nat.pow 2 256

theorem wordBound_pos : 0 < wordBound :=
  Nat.two_pow_pos 256

/-- An unsigned 256-bit integer. -/
structure Word where
  toNat : Nat
  isLt : toNat < wordBound
deriving DecidableEq

namespace Word

instance : Repr Word := ⟨fun w _ => repr w.toNat⟩

/-- The word of a number, or `none` above the 256-bit range. -/
def ofNat? (n : Nat) : Option Word :=
  if h : n < wordBound then some ⟨n, h⟩ else none

/-- The word of a number, reduced modulo 2^256. -/
def ofNatWrap (n : Nat) : Word :=
  ⟨n % wordBound, Nat.mod_lt _ wordBound_pos⟩

/-- The word of a 64-bit quantity. -/
def ofU64 (n : Nat) : Word :=
  ofNatWrap n

/-- The zero word. -/
def zero : Word := ⟨0, wordBound_pos⟩

/-- The 32-byte big-endian form. -/
def toBytes (w : Word) : Bytes :=
  Bytes.ofNat 32 w.toNat

/-- The word of a 32-byte big-endian string. -/
def ofBytes (bytes : Bytes) : Word :=
  ofNatWrap (Bytes.toNat bytes)

/-- The value as a 64-bit quantity, or `none` when it does not fit. -/
def toU64? (w : Word) : Option Nat :=
  if w.toNat ≤ u64Max then some w.toNat else none

/-- Decimal text. -/
def toDecimal (w : Word) : String :=
  toString w.toNat

end Word

end NftProbe
