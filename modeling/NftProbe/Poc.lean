import NftProbe.Defaults
import NftProbe.Json.Value

/-!
# The proof-of-concept profile

The published targets of the L3 chain: its id, name and gas token, the chains it settles on,
its endpoints, its performance targets, and the settlement path down to L1. The profile is
shown as text or as pretty JSON with camel-case keys.
-/

set_option autoImplicit false

namespace NftProbe

/-- A chain by name and id. -/
structure ChainRef where
  name : String
  chainId : Nat
deriving DecidableEq, Repr

/-- The performance the chain aims for. -/
structure PerformanceTargets where
  minTps : Nat
  blockTimeMs : Nat
  gasReductionPercent : Nat
  settlementToL2Minutes : Nat
deriving DecidableEq, Repr

/-- The proof-of-concept profile of the chain. -/
structure PocProfile where
  chainId : Nat
  name : String
  nativeGasToken : String
  parentChain : ChainRef
  settlementChain : ChainRef
  rpcUrl : String
  wsUrl : String
  performance : PerformanceTargets
  settlementPath : List String
deriving DecidableEq, Repr

namespace PocProfile

/-- The chain id of Ethereum mainnet. -/
def mainnetChainId : Nat := 1

/-- The profile of the L3 chain. -/
def bunkerverse : PocProfile :=
  { chainId := expectedChainId, name := expectedChainName, nativeGasToken := "NTC",
    parentChain := { name := "Arbitrum One", chainId := arbitrumOneChainId },
    settlementChain := { name := "Ethereum Mainnet", chainId := mainnetChainId },
    rpcUrl := "http://localhost:8549", wsUrl := "ws://localhost:8550",
    performance :=
      { minTps := 2000, blockTimeMs := 250, gasReductionPercent := 95,
        settlementToL2Minutes := 10 },
    settlementPath := ["L3 (Bunkerverse)", "L2 (Arbitrum One)", "L1 (Ethereum)"] }

/-- The JSON form of a chain reference. -/
def chainRefJson (chain : ChainRef) : Json :=
  .object [("name", .string chain.name), ("chainId", .nat chain.chainId)]

/-- The JSON form of the profile. -/
def toJson (profile : PocProfile) : Json :=
  .object [
    ("chainId", .nat profile.chainId),
    ("name", .string profile.name),
    ("nativeGasToken", .string profile.nativeGasToken),
    ("parentChain", chainRefJson profile.parentChain),
    ("settlementChain", chainRefJson profile.settlementChain),
    ("rpcUrl", .string profile.rpcUrl),
    ("wsUrl", .string profile.wsUrl),
    ("performance", .object [
      ("minTps", .nat profile.performance.minTps),
      ("blockTimeMs", .nat profile.performance.blockTimeMs),
      ("gasReductionPercent", .nat profile.performance.gasReductionPercent),
      ("settlementToL2Minutes", .nat profile.performance.settlementToL2Minutes)]),
    ("settlementPath", .array (profile.settlementPath.map Json.string))]

/-- The profile as text, line by line. -/
def lines (profile : PocProfile) : List String :=
  [profile.name ++ " proof of concept",
    "==========================================",
    "Chain ID:          " ++ toString profile.chainId,
    "Native gas token:  " ++ profile.nativeGasToken,
    "Parent chain:      " ++ profile.parentChain.name ++ " (" ++
      toString profile.parentChain.chainId ++ ")",
    "Settlement chain:  " ++ profile.settlementChain.name ++ " (" ++
      toString profile.settlementChain.chainId ++ ")",
    "RPC endpoint:      " ++ profile.rpcUrl,
    "WebSocket:         " ++ profile.wsUrl,
    "",
    "Performance targets",
    "  Throughput:      " ++ toString profile.performance.minTps ++ "+ TPS",
    "  Block time:      " ++ toString profile.performance.blockTimeMs ++ "ms",
    "  Gas cost:        " ++ toString profile.performance.gasReductionPercent ++
      "% lower than L1",
    "  Settlement:      ~" ++ toString profile.performance.settlementToL2Minutes ++ " min to L2",
    "",
    "Settlement path:   " ++ " -> ".intercalate profile.settlementPath]

/-- The profile as text. -/
def render (profile : PocProfile) : String :=
  "\n".intercalate profile.lines

end PocProfile

end NftProbe
