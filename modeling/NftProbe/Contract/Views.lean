import NftProbe.Contract.Calls
import NftProbe.Chain.Block

/-!
# Decoded results of the contract's reads

`single` takes the one value of a read that returns one. `ContractInfo` and `L3View` are the
results of `getContractInfo()` and `validateL3Chain()`. Reading one from tokens checks the
number of tokens first and then each field in order, so the first wrong field is named.
-/

set_option autoImplicit false

namespace NftProbe.Contract

open Abi

/-- The only value of a list of one. -/
def single : List Token → Except AbiError Token
  | [token] => .ok token
  | tokens => .error (.arity 1 tokens.length)

/-- Refuses a list whose length is not `expected`. -/
def expectArity (tokens : List Token) (expected : Nat) : Except AbiError Unit :=
  if tokens.length = expected then .ok () else .error (.arity expected tokens.length)

/-- The value at a position of a list already checked to be long enough. -/
def tokenAt (tokens : List Token) (index : Nat) (arity : Nat) : Except AbiError Token :=
  match tokens[index]? with
  | some token => .ok token
  | none => .error (.arity arity 0)

/-- The metadata the contract reports. -/
structure ContractInfo where
  name : String
  symbol : String
  totalSupply : Nat
  version : String
  chainName : String
  chainId : Nat
deriving DecidableEq, Repr

namespace ContractInfo

/-- The metadata in a list of six values. -/
def ofTokens (tokens : List Token) : Except AbiError ContractInfo := do
  expectArity tokens 6
  let name ← (← tokenAt tokens 0 6).asString
  let symbol ← (← tokenAt tokens 1 6).asString
  let totalSupply ← (← tokenAt tokens 2 6).asU64
  let version ← (← tokenAt tokens 3 6).asString
  let chainName ← (← tokenAt tokens 4 6).asString
  let chainId ← (← tokenAt tokens 5 6).asU64
  return { name, symbol, totalSupply, version, chainName, chainId }

/-- The six values of the metadata. -/
def toTokens (info : ContractInfo) : List Token :=
  [.string info.name, .string info.symbol, .uint (Word.ofU64 info.totalSupply),
    .string info.version, .string info.chainName, .uint (Word.ofU64 info.chainId)]

/-- The JSON form. -/
def toJson (info : ContractInfo) : Json :=
  .object [
    ("name", .string info.name),
    ("symbol", .string info.symbol),
    ("total_supply", .nat info.totalSupply),
    ("version", .string info.version),
    ("chain_name", .string info.chainName),
    ("chain_id", .nat info.chainId)]

end ContractInfo

/-- The block facts as the contract observes them. -/
structure L3View where
  chainId : Nat
  blockNumber : Nat
  timestamp : Nat
  coinbase : Address
  gasLimit : Nat
deriving DecidableEq, Repr

namespace L3View

/-- The view in a list of five values. -/
def ofTokens (tokens : List Token) : Except AbiError L3View := do
  expectArity tokens 5
  let chainId ← (← tokenAt tokens 0 5).asU64
  let blockNumber ← (← tokenAt tokens 1 5).asU64
  let timestamp ← (← tokenAt tokens 2 5).asU64
  let coinbase ← (← tokenAt tokens 3 5).asAddress
  let gasLimit ← (← tokenAt tokens 4 5).asU64
  return { chainId, blockNumber, timestamp, coinbase, gasLimit }

/-- The five values of the view. -/
def toTokens (view : L3View) : List Token :=
  [.uint (Word.ofU64 view.chainId), .uint (Word.ofU64 view.blockNumber),
    .uint (Word.ofU64 view.timestamp), .address view.coinbase, .uint (Word.ofU64 view.gasLimit)]

/-- The view of a block snapshot. -/
def ofSnapshot (snapshot : BlockSnapshot) : L3View :=
  { chainId := snapshot.chainId, blockNumber := snapshot.blockNumber,
    timestamp := snapshot.timestamp, coinbase := snapshot.coinbase,
    gasLimit := snapshot.gasLimit }

/-- The JSON form. -/
def toJson (view : L3View) : Json :=
  .object [
    ("chain_id", .nat view.chainId),
    ("block_number", .nat view.blockNumber),
    ("timestamp", .nat view.timestamp),
    ("coinbase", .string view.coinbase.toHex),
    ("gas_limit", .nat view.gasLimit)]

end L3View

end NftProbe.Contract
