import NftProbe.Table
import NftProbe.Contract.Transfer

/-!
# A token collection

The state of one ERC-721 contract on the simulated chain: its admin, the next token id, the
supply, the owner and metadata of every token, single-token approvals, operators, and the
owners served while stale reads are switched on. Token ids start at 1 and are never reused.

Every failure is a revert reason, the text the contract reverts with.
-/

set_option autoImplicit false

namespace NftProbe.Sim

open Contract

/-- The state of one token contract. -/
structure Collection where
  admin : Address
  nextTokenId : Nat := 1
  totalSupply : Nat := 0
  owners : Table Nat Address := []
  uris : Table Nat String := []
  approvals : Table Nat Address := []
  /-- Pairs of an owner and an account it lets move all of its tokens. No call of the contract
  adds one. -/
  operators : List (Address × Address) := []
  /-- The owner before the last transfer, for tokens transferred while stale reads are on. -/
  staleOwners : Table Nat Address := []

namespace Collection

/-- A fresh contract administered by `admin`. -/
def create (admin : Address) : Collection :=
  { admin }

/-- Mints the next token to `target` with metadata `uri`. The next id and the supply are 64-bit
numbers incremented without a check; they pass 2^64 - 1 only once as many tokens are stored
(`Collection.Sound.totalSupply_le_length`). -/
def mint (collection : Collection) (target : Address) (uri : String) :
    Except String (Collection × TransferEvent) :=
  if target.isZero then .error "ERC721InvalidReceiver(0x0)"
  else
    let tokenId := collection.nextTokenId
    .ok ({ collection with
        nextTokenId := tokenId + 1
        totalSupply := collection.totalSupply + 1
        owners := collection.owners.insert tokenId target
        uris := collection.uris.insert tokenId uri },
      { source := Address.zero, target, tokenId })

/-- The owner of a token that exists. -/
def ownerOf (collection : Collection) (tokenId : Nat) : Except String Address :=
  match collection.owners.get? tokenId with
  | some owner => .ok owner
  | none => .error ("ERC721NonexistentToken(" ++ toString tokenId ++ ")")

/-- Whether `caller` may move a token of `owner`: the owner itself, the account approved for
the token, or an operator of the owner. -/
def authorized (collection : Collection) (caller owner : Address) (tokenId : Nat) : Bool :=
  caller == owner || collection.approvals.get? tokenId == some caller ||
    collection.operators.contains (owner, caller)

/-- Succeeds only for the admin. -/
def onlyAdmin (collection : Collection) (caller : Address) : Except String Unit :=
  if caller == collection.admin then .ok ()
  else .error ("OwnableUnauthorizedAccount(" ++ caller.toHex ++ ")")

end Collection

end NftProbe.Sim
