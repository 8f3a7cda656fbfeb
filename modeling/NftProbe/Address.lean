import NftProbe.Hex
import NftProbe.Word
import NftProbe.Abi.Error

/-!
# Addresses and 32-byte hashes

An `Address` is a 20-byte account identifier, written `0x` and 40 lowercase digits. A `Hash32`
is a 32-byte value (a transaction hash, an event topic), written `0x` and 64 digits.
`Address.parse` reads an address from hex text with an optional `0x` or `0X`, in either case,
and refuses any other text.
-/

set_option autoImplicit false

namespace NftProbe

/-- 2^160: account identifiers are the numbers below it. -/
def addressBound : Nat := Nat.pow 2 160

theorem addressBound_pos : 0 < addressBound :=
  Nat.two_pow_pos 160

/-- A 20-byte account identifier. -/
structure Address where
  toNat : Nat
  isLt : toNat < addressBound
deriving DecidableEq

namespace Address

instance : Repr Address := ⟨fun a _ => repr a.toNat⟩

/-- The zero address. -/
def zero : Address := ⟨0, addressBound_pos⟩

instance : Inhabited Address := ⟨zero⟩

/-- The address of the low 20 bytes of a number. -/
def ofNatWrap (n : Nat) : Address :=
  ⟨n % addressBound, Nat.mod_lt _ addressBound_pos⟩

/-- The address of a byte string, from its last 20 bytes. -/
def ofBytes (bytes : Bytes) : Address :=
  ofNatWrap (Bytes.toNat bytes)

/-- The address in the low 20 bytes of a word. -/
def ofWord (w : Word) : Address :=
  ofNatWrap w.toNat

/-- The 20 bytes of the address. -/
def toBytes (a : Address) : Bytes :=
  Bytes.ofNat 20 a.toNat

/-- The word holding the address in its low 20 bytes. -/
def toWord (a : Address) : Word :=
  Word.ofNatWrap a.toNat

/-- Whether this is the zero address. -/
def isZero (a : Address) : Bool :=
  a.toNat == 0

/-- `0x` and 40 lowercase hex digits. -/
def toHex (a : Address) : String :=
  Hex.encodePrefixed a.toBytes

/-- The first ten characters of the hex form and an ellipsis, for log lines. -/
def short (a : Address) : String :=
  String.ofList (a.toHex.toList.take 10) ++ "…"

/-- The address written in `text`: hex digits of 20 bytes after one optional `0x` or `0X`. -/
def parse (text : String) : Except Abi.AbiError Address :=
  let digits :=
    if text.startsWith "0x" then Hex.stripPrefix text "0x" else Hex.stripPrefix text "0X"
  match Hex.decode digits with
  | .ok bytes => if bytes.length = 20 then .ok (ofBytes bytes) else .error (.invalidAddress text)
  | .error _ => .error (.invalidAddress text)

end Address

/-- A 32-byte hash or topic. -/
structure Hash32 where
  toNat : Nat
  isLt : toNat < wordBound

namespace Hash32

/-- Hashes with the same number are the same. -/
theorem ext_toNat {a b : Hash32} (h : a.toNat = b.toNat) : a = b := by
  cases a
  cases b
  cases h
  rfl

instance : DecidableEq Hash32 := fun a b =>
  if h : a.toNat = b.toNat then isTrue (ext_toNat h)
  else isFalse fun same => h (congrArg toNat same)

instance : Repr Hash32 := ⟨fun h _ => repr h.toNat⟩

/-- The zero hash. -/
def zero : Hash32 := ⟨0, wordBound_pos⟩

instance : Inhabited Hash32 := ⟨zero⟩

/-- The hash of a number, reduced to its low 32 bytes. -/
def ofNatWrap (n : Nat) : Hash32 :=
  ⟨n % wordBound, Nat.mod_lt _ wordBound_pos⟩

/-- The hash of a byte string, from its last 32 bytes. -/
def ofBytes (bytes : Bytes) : Hash32 :=
  ofNatWrap (Bytes.toNat bytes)

/-- The 32 bytes of the hash. -/
def toBytes (h : Hash32) : Bytes :=
  Bytes.ofNat 32 h.toNat

/-- `0x` and 64 lowercase hex digits. -/
def toHex (h : Hash32) : String :=
  Hex.encodePrefixed h.toBytes

/-- The topic holding an address in its low 20 bytes. -/
def ofAddress (a : Address) : Hash32 :=
  ofNatWrap a.toNat

/-- The address in the low 20 bytes of the hash. -/
def toAddress (h : Hash32) : Address :=
  Address.ofNatWrap h.toNat

end Hash32

end NftProbe
