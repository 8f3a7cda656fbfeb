/-!
# Byte strings

A byte string is a list of bytes. Numbers are read and written big-endian: the first byte is
the most significant. `Bytes.toNat` reads a byte string and `Bytes.ofNat` writes a number in a
fixed width, keeping its low bytes.
-/

set_option autoImplicit false

namespace NftProbe

/-- A string of bytes. -/
abbrev Bytes := List UInt8

namespace Bytes

/-- The number a byte string denotes, most significant byte first. -/
def toNat (bytes : Bytes) : Nat :=
  bytes.foldl (fun acc byte => acc * 256 + byte.toNat) 0

/-- The low `width` bytes of `n`, most significant first. -/
def ofNat : Nat → Nat → Bytes
  | 0, _ => []
  | width + 1, n => ofNat width (n / 256) ++ [UInt8.ofNat (n % 256)]

/-- `width` zero bytes. -/
def zeros (width : Nat) : Bytes :=
  List.replicate width 0

/-- The bytes of `bytes` from `offset` on, `length` of them, or `none` when the string is too
short. -/
def slice? (bytes : Bytes) (offset length : Nat) : Option Bytes :=
  if offset + length ≤ bytes.length then some ((bytes.drop offset).take length) else none

end Bytes

end NftProbe
