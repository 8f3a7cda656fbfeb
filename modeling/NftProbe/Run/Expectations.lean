import NftProbe.Defaults
import NftProbe.Json.Value

/-!
# What a run expects

The chain id every mutating step is gated on, the metadata the contract must report, and an
optional floor for the block gas limit; and the metadata of the demonstration mints.
-/

set_option autoImplicit false

namespace NftProbe.Run

/-- The values a run checks the chain and the contract against. -/
structure Expectations where
  chainId : Nat := expectedChainId
  name : String := expectedContractName
  symbol : String := expectedContractSymbol
  version : String := expectedContractVersion
  chainName : String := expectedChainName
  minGasLimit : Option Nat := none
deriving DecidableEq, Repr

/-- The JSON form of the expectations. -/
def Expectations.toJson (expectations : Expectations) : Json :=
  .object [
    ("chain_id", .nat expectations.chainId),
    ("name", .string expectations.name),
    ("symbol", .string expectations.symbol),
    ("version", .string expectations.version),
    ("chain_name", .string expectations.chainName),
    ("min_gas_limit", .optional Json.nat expectations.minGasLimit)]

/-- The metadata of the demonstration mints. -/
structure DemoMints where
  singleUri : String := demoSingleMintUri
  batchUris : List String := demoBatchMintUris
deriving DecidableEq, Repr

/-- The JSON form of the demonstration mints. -/
def DemoMints.toJson (mints : DemoMints) : Json :=
  .object [
    ("single_uri", .string mints.singleUri),
    ("batch_uris", .array (mints.batchUris.map Json.string))]

end NftProbe.Run
