import NftProbe.Sim.Chain
import NftProbe.Proofs.Keccak

/-!
# The hashes a simulated run depends on

The simulated contract dispatches on the selector of a call's signature, the first four bytes
of its Keccak hash, and the chain's signing accounts are cut from hashes of their indices. A
run against the chain relies on a few facts about these hashes: the selectors of the functions
it calls differ from those tested before them, and the accounts it uses are not the zero
address.

Each hash is evaluated by the kernel once, in a definition that pairs the value with the proof
that it is the hash's (`safeMintSelector`, `deployerAccount`, …). The kernel runs the hash in
its form on lists of lanes (`Keccak.hash_eq_lanesHash`), which it evaluates about four times
faster than the form on arrays. A definition's value is
elaborated where it is declared, so the evaluations run one after another, each freeing what
it built before the next begins. The `@[simp]` lemmas read the values off, and every later
fact is a computation on the literals.
-/

set_option autoImplicit false

namespace NftProbe.Sim

open Abi Contract

/-! ### The selectors, evaluated -/

/-- The selector of `safeMint(address,string)`. -/
def safeMintSelector : { b : Bytes // selector safeMintSignature = b } :=
  ⟨[210, 4, 196, 94],
    by rw [selector, Keccak.hash_eq_lanesHash]; decide +kernel⟩

/-- The selector of `batchMint(address[],string[])`. -/
def batchMintSelector : { b : Bytes // selector batchMintSignature = b } :=
  ⟨[100, 186, 20, 78],
    by rw [selector, Keccak.hash_eq_lanesHash]; decide +kernel⟩

/-- The selector of `transferFrom(address,address,uint256)`. -/
def transferFromSelector : { b : Bytes // selector transferFromSignature = b } :=
  ⟨[35, 184, 114, 221],
    by rw [selector, Keccak.hash_eq_lanesHash]; decide +kernel⟩

/-- The selector of `totalSupply()`. -/
def totalSupplySelector : { b : Bytes // selector totalSupplySignature = b } :=
  ⟨[24, 22, 13, 221],
    by rw [selector, Keccak.hash_eq_lanesHash]; decide +kernel⟩

/-- The selector of `getNextTokenId()`. -/
def getNextTokenIdSelector : { b : Bytes // selector getNextTokenIdSignature = b } :=
  ⟨[202, 160, 249, 42],
    by rw [selector, Keccak.hash_eq_lanesHash]; decide +kernel⟩

/-- The selector of `ownerOf(uint256)`. -/
def ownerOfSelector : { b : Bytes // selector ownerOfSignature = b } :=
  ⟨[99, 82, 33, 30],
    by rw [selector, Keccak.hash_eq_lanesHash]; decide +kernel⟩

/-- The selector of `tokenURI(uint256)`. -/
def tokenUriSelector : { b : Bytes // selector tokenUriSignature = b } :=
  ⟨[200, 123, 86, 221],
    by rw [selector, Keccak.hash_eq_lanesHash]; decide +kernel⟩

/-- The selector of `getContractInfo()`. -/
def getContractInfoSelector : { b : Bytes // selector getContractInfoSignature = b } :=
  ⟨[124, 193, 248, 103],
    by rw [selector, Keccak.hash_eq_lanesHash]; decide +kernel⟩

/-- The selector of `validateL3Chain()`. -/
def validateL3ChainSelector : { b : Bytes // selector validateL3ChainSignature = b } :=
  ⟨[70, 239, 73, 0],
    by rw [selector, Keccak.hash_eq_lanesHash]; decide +kernel⟩

@[simp] theorem selector_safeMint : selector safeMintSignature = [210, 4, 196, 94] :=
  safeMintSelector.property

@[simp] theorem selector_batchMint : selector batchMintSignature = [100, 186, 20, 78] :=
  batchMintSelector.property

@[simp] theorem selector_transferFrom : selector transferFromSignature = [35, 184, 114, 221] :=
  transferFromSelector.property

@[simp] theorem selector_totalSupply : selector totalSupplySignature = [24, 22, 13, 221] :=
  totalSupplySelector.property

@[simp] theorem selector_getNextTokenId :
    selector getNextTokenIdSignature = [202, 160, 249, 42] :=
  getNextTokenIdSelector.property

@[simp] theorem selector_ownerOf : selector ownerOfSignature = [99, 82, 33, 30] :=
  ownerOfSelector.property

@[simp] theorem selector_tokenUri : selector tokenUriSignature = [200, 123, 86, 221] :=
  tokenUriSelector.property

@[simp] theorem selector_getContractInfo :
    selector getContractInfoSignature = [124, 193, 248, 103] :=
  getContractInfoSelector.property

@[simp] theorem selector_validateL3Chain : selector validateL3ChainSignature = [70, 239, 73, 0] :=
  validateL3ChainSelector.property

/-! ### The signing accounts a run uses -/

/-- Signer 0, the account that deploys and administers the contract. -/
def deployerAccount : { a : Address // signerAddress 0 = a } :=
  ⟨Address.ofNatWrap 297110273065221690875169136491619032077495973106,
    by rw [signerAddress, Keccak.hash_eq_lanesHash]; decide +kernel⟩

/-- Signer 1, the first user. -/
def firstUserAccount : { a : Address // signerAddress 1 = a } :=
  ⟨Address.ofNatWrap 442683661445305443919654690806917532500493519071,
    by rw [signerAddress, Keccak.hash_eq_lanesHash]; decide +kernel⟩

/-- Signer 2, the second user. -/
def secondUserAccount : { a : Address // signerAddress 2 = a } :=
  ⟨Address.ofNatWrap 1442877069880053782723671267011382294873337533413,
    by rw [signerAddress, Keccak.hash_eq_lanesHash]; decide +kernel⟩

/-- None of the first three accounts is the zero address. -/
theorem signerAddress_isZero {index : Nat} (h : index < 3) :
    (signerAddress index).isZero = false := by
  match index, h with
  | 0, _ => rw [deployerAccount.property]; decide
  | 1, _ => rw [firstUserAccount.property]; decide
  | 2, _ => rw [secondUserAccount.property]; decide

end NftProbe.Sim
