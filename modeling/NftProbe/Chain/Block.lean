import NftProbe.Address
import NftProbe.Json.Value

/-!
# Blocks and chain identities

A `BlockSnapshot` is what a chain reports about its latest block at one moment: chain id,
block number, timestamp in seconds, coinbase and gas limit. Snapshots are values: every check
takes a fresh one. A `ChainIdentity` names a chain by its id.
-/

set_option autoImplicit false

namespace NftProbe

/-- Facts about the latest block, read at one moment. -/
structure BlockSnapshot where
  chainId : Nat
  blockNumber : Nat
  timestamp : Nat
  coinbase : Address
  gasLimit : Nat
deriving DecidableEq, Repr

/-- The JSON form: `chain_id`, `block_number`, `timestamp`, `coinbase`, `gas_limit`. -/
def BlockSnapshot.toJson (snapshot : BlockSnapshot) : Json :=
  .object [
    ("chain_id", .nat snapshot.chainId),
    ("block_number", .nat snapshot.blockNumber),
    ("timestamp", .nat snapshot.timestamp),
    ("coinbase", .string snapshot.coinbase.toHex),
    ("gas_limit", .nat snapshot.gasLimit)]

/-- A chain named by its id. -/
structure ChainIdentity where
  chainId : Nat
  name : String
deriving DecidableEq, Repr

/-- `name (Chain ID: id)`. -/
def ChainIdentity.render (identity : ChainIdentity) : String :=
  identity.name ++ " (Chain ID: " ++ toString identity.chainId ++ ")"

/-- The JSON form: `chain_id`, `name`. -/
def ChainIdentity.toJson (identity : ChainIdentity) : Json :=
  .object [("chain_id", .nat identity.chainId), ("name", .string identity.name)]

end NftProbe
