import NftProbe.Keccak

/-!
# Keccak-256 on lists of lanes

`Keccak.hash` keeps the sponge's state in an `Array`. When the kernel evaluates a hash, an
array built by `Array.ofFn` stays a chain of `push`es that every read of a lane walks again,
and one hash takes about four times what the same rounds take on a `List`. This module states
the permutation and the sponge again on lists of lanes, step for step (`Lanes.theta`, …,
`Lanes.hash`), and proves that the two agree: `toList_permute` for the permutation and
`hash_eq_lanesHash` for the hash. A closed fact about a hash is then checked on the list form.
-/

set_option autoImplicit false

namespace NftProbe.Keccak

namespace Lanes

/-- The lane at column `x`, row `y`, both taken modulo 5. -/
def lane (state : List UInt64) (x y : Nat) : UInt64 :=
  state.getD (x % 5 + 5 * (y % 5)) 0

/-- θ on a list of lanes. -/
def theta (state : List UInt64) : List UInt64 :=
  let parity (x : Nat) : UInt64 :=
    lane state x 0 ^^^ lane state x 1 ^^^ lane state x 2 ^^^ lane state x 3 ^^^ lane state x 4
  List.ofFn fun (i : Fin 25) =>
    let x := i.val % 5
    state.getD i.val 0 ^^^ parity (x + 4) ^^^ rotateLeft (parity (x + 1)) 1

/-- ρ and π on a list of lanes. -/
def rhoPi (state : List UInt64) : List UInt64 :=
  List.ofFn fun (i : Fin 25) =>
    let target := i.val
    let x' := target % 5
    let y' := target / 5
    let x := (3 * (y' + 2 * x')) % 5
    let y := x'
    rotateLeft (lane state x y) (rotationOffsets.getD (x + 5 * y) 0)

/-- χ on a list of lanes. -/
def chi (state : List UInt64) : List UInt64 :=
  List.ofFn fun (i : Fin 25) =>
    let x := i.val % 5
    let y := i.val / 5
    lane state x y ^^^ ((~~~ lane state (x + 1) y) &&& lane state (x + 2) y)

/-- ι on a list of lanes. -/
def iota (round : Nat) (state : List UInt64) : List UInt64 :=
  state.modify 0 (· ^^^ roundConstants.getD round 0)

/-- Keccak-f[1600] on a list of lanes. -/
def permute (state : List UInt64) : List UInt64 :=
  (List.range 24).foldl (fun s round => iota round (chi (rhoPi (theta s)))) state

/-- One block absorbed into a list of lanes. -/
def absorb (state : List UInt64) (block : Bytes) : List UInt64 :=
  permute <| List.ofFn fun (i : Fin 25) =>
    if i.val < rate / 8 then
      state.getD i.val 0 ^^^ laneOfBytes ((block.drop (8 * i.val)).take 8)
    else state.getD i.val 0

/-- Keccak-256 with the state kept as a list of lanes. -/
def hash (message : Bytes) : Bytes :=
  let padded := pad message
  let state := (blocks padded.length padded).foldl absorb (List.replicate 25 0)
  ((List.range 4).flatMap fun i => bytesOfLane (state.getD i 0))

end Lanes

/-- Reading an array with a default reads its list of elements. -/
theorem getD_toList (state : Array UInt64) (i : Nat) (d : UInt64) :
    state.toList.getD i d = state.getD i d := by
  rw [List.getD_eq_getElem?_getD, Array.getElem?_toList, Array.getD_eq_getD_getElem?]

theorem lane_toList (state : Array UInt64) (x y : Nat) :
    Lanes.lane state.toList x y = lane state x y :=
  getD_toList state _ 0

theorem toList_theta (state : Array UInt64) :
    (theta state).toList = Lanes.theta state.toList := by
  simp only [theta, Lanes.theta, Array.toList_ofFn, lane_toList, getD_toList]

theorem toList_rhoPi (state : Array UInt64) :
    (rhoPi state).toList = Lanes.rhoPi state.toList := by
  simp only [rhoPi, Lanes.rhoPi, Array.toList_ofFn, lane_toList]

theorem toList_chi (state : Array UInt64) :
    (chi state).toList = Lanes.chi state.toList := by
  simp only [chi, Lanes.chi, Array.toList_ofFn, lane_toList]

theorem toList_iota (round : Nat) (state : Array UInt64) :
    (iota round state).toList = Lanes.iota round state.toList := by
  simp only [iota, Lanes.iota, Array.toList_modify]

/-- The permutation on arrays and on lists agree: each of the 24 rounds does. -/
theorem toList_permute (state : Array UInt64) :
    (permute state).toList = Lanes.permute state.toList := by
  unfold permute Lanes.permute
  refine (List.foldl_hom Array.toList ?_).symm
  intro s round
  rw [toList_iota, toList_chi, toList_rhoPi, toList_theta]

theorem toList_absorb (state : Array UInt64) (block : Bytes) :
    (absorb state block).toList = Lanes.absorb state.toList block := by
  simp only [absorb, Lanes.absorb, toList_permute, Array.toList_ofFn, getD_toList]

/-- Keccak-256 computed on an array of lanes is Keccak-256 computed on a list of lanes. -/
theorem hash_eq_lanesHash (message : Bytes) : hash message = Lanes.hash message := by
  have hstate : ∀ blocks : List Bytes,
      (blocks.foldl absorb (Array.replicate 25 0)).toList =
        blocks.foldl Lanes.absorb (List.replicate 25 0) := by
    intro blocks
    rw [← Array.toList_replicate]
    exact List.foldl_hom Array.toList (fun s block => (toList_absorb s block).symm) |>.symm
  simp only [hash, Lanes.hash, ← hstate, getD_toList]

end NftProbe.Keccak
