import NftProbe.Bytes

/-!
# Keccak-256

The hash of the EVM: the Keccak sponge over the permutation Keccak-f[1600], rate 136 bytes,
output 32 bytes, with the padding of the Keccak submission (a `0x01` byte after the message,
`0x80` on the last byte of the block) rather than the SHA-3 one.

The state is 25 lanes of 64 bits; lane `x + 5 * y` holds the lane at column `x`, row `y`.
Bytes enter and leave a lane least significant first.
-/

set_option autoImplicit false

namespace NftProbe.Keccak

/-- The round constants of ι. -/
def roundConstants : Array UInt64 := #[
  0x0000000000000001, 0x0000000000008082, 0x800000000000808A, 0x8000000080008000,
  0x000000000000808B, 0x0000000080000001, 0x8000000080008081, 0x8000000000008009,
  0x000000000000008A, 0x0000000000000088, 0x0000000080008009, 0x000000008000000A,
  0x000000008000808B, 0x800000000000008B, 0x8000000000008089, 0x8000000000008003,
  0x8000000000008002, 0x8000000000000080, 0x000000000000800A, 0x800000008000000A,
  0x8000000080008081, 0x8000000000008080, 0x0000000080000001, 0x8000000080008008]

/-- The rotation offsets of ρ, by lane index `x + 5 * y`. -/
def rotationOffsets : Array Nat := #[
  0, 1, 62, 28, 27,
  36, 44, 6, 55, 20,
  3, 10, 43, 25, 39,
  41, 45, 15, 21, 8,
  18, 2, 61, 56, 14]

/-- Rotation of a lane towards the most significant bit. -/
def rotateLeft (lane : UInt64) (amount : Nat) : UInt64 :=
  if amount % 64 = 0 then lane
  else (lane <<< (amount % 64).toUInt64) ||| (lane >>> (64 - amount % 64).toUInt64)

/-- The lane at column `x`, row `y`, both taken modulo 5. -/
def lane (state : Array UInt64) (x y : Nat) : UInt64 :=
  state.getD (x % 5 + 5 * (y % 5)) 0

/-- θ: every lane absorbs the parities of the two neighbouring columns. -/
def theta (state : Array UInt64) : Array UInt64 :=
  let parity (x : Nat) : UInt64 :=
    lane state x 0 ^^^ lane state x 1 ^^^ lane state x 2 ^^^ lane state x 3 ^^^ lane state x 4
  Array.ofFn fun (i : Fin 25) =>
    let x := i.val % 5
    state.getD i.val 0 ^^^ parity (x + 4) ^^^ rotateLeft (parity (x + 1)) 1

/-- ρ and π: lane `(x, y)` is rotated and moved to `(y, 2x + 3y)`. So lane `(x', y')` comes
from `(x, y)` with `y = x'` and `x = 3 (y' + 2x')` modulo 5. -/
def rhoPi (state : Array UInt64) : Array UInt64 :=
  Array.ofFn fun (i : Fin 25) =>
    let target := i.val
    let x' := target % 5
    let y' := target / 5
    let x := (3 * (y' + 2 * x')) % 5
    let y := x'
    rotateLeft (lane state x y) (rotationOffsets.getD (x + 5 * y) 0)

/-- χ: each lane is combined with the next two of its row. -/
def chi (state : Array UInt64) : Array UInt64 :=
  Array.ofFn fun (i : Fin 25) =>
    let x := i.val % 5
    let y := i.val / 5
    lane state x y ^^^ ((~~~ lane state (x + 1) y) &&& lane state (x + 2) y)

/-- ι: the round constant enters lane `(0, 0)`. -/
def iota (round : Nat) (state : Array UInt64) : Array UInt64 :=
  state.modify 0 (· ^^^ roundConstants.getD round 0)

/-- The permutation Keccak-f[1600]: 24 rounds of θ, ρ, π, χ, ι. -/
def permute (state : Array UInt64) : Array UInt64 :=
  (List.range 24).foldl (fun s round => iota round (chi (rhoPi (theta s)))) state

/-- The rate of Keccak-256 in bytes. -/
def rate : Nat := 136

/-- The lane made of eight bytes, least significant first. -/
def laneOfBytes (bytes : Bytes) : UInt64 :=
  bytes.foldr (fun byte acc => (acc <<< 8) ||| byte.toUInt64) 0

/-- The eight bytes of a lane, least significant first. -/
def bytesOfLane (value : UInt64) : Bytes :=
  (List.range 8).map fun k => (value >>> (8 * k).toUInt64).toUInt8

/-- The message followed by the Keccak padding, a whole number of blocks long. -/
def pad (message : Bytes) : Bytes :=
  let fill := rate - message.length % rate
  if fill = 1 then message ++ [0x81]
  else message ++ [0x01] ++ Bytes.zeros (fill - 2) ++ [0x80]

/-- The padded message cut into blocks of `rate` bytes; `fuel` bounds the number of blocks. -/
def blocks : Nat → Bytes → List Bytes
  | 0, _ => []
  | fuel + 1, bytes =>
    if bytes.isEmpty then [] else bytes.take rate :: blocks fuel (bytes.drop rate)

/-- One block absorbed into the state. -/
def absorb (state : Array UInt64) (block : Bytes) : Array UInt64 :=
  permute <| Array.ofFn fun (i : Fin 25) =>
    if i.val < rate / 8 then
      state.getD i.val 0 ^^^ laneOfBytes ((block.drop (8 * i.val)).take 8)
    else state.getD i.val 0

/-- The Keccak-256 hash of a byte string. -/
def hash (message : Bytes) : Bytes :=
  let padded := pad message
  let state := (blocks padded.length padded).foldl absorb (Array.replicate 25 0)
  ((List.range 4).flatMap fun i => bytesOfLane (state.getD i 0))

end NftProbe.Keccak
