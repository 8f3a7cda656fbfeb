import NftProbe.Defaults
import NftProbe.Chain.Block
import NftProbe.Json.Value

/-!
# Networks

The three tiers of the settlement hierarchy: a local L1, Arbitrum as L2, and the L3 chain the
runs target. Each network has a fixed profile; a network is named in kebab case, and a chain
id names the first network whose profile has it.
-/

set_option autoImplicit false

namespace NftProbe

/-- A network of the settlement hierarchy. -/
inductive Network
  | ethereum
  | arbitrumL2
  | bunkerverseL3
deriving DecidableEq, Repr

/-- The tier of a network. -/
inductive Layer
  | l1
  | l2
  | l3
deriving DecidableEq, Repr

/-- The name of a layer. -/
def Layer.name : Layer → String
  | .l1 => "L1"
  | .l2 => "L2"
  | .l3 => "L3"

/-- The connection and gas parameters of a network. -/
structure NetworkProfile where
  network : Network
  layer : Layer
  name : String
  chainId : Nat
  rpcUrl : String
  gasPriceWei : Nat
  /-- The gas limit to send with transactions; `none` lets the node pick. -/
  gasLimit : Option Nat
deriving DecidableEq, Repr

namespace Network

/-- Every network, in declaration order. -/
def all : List Network := [.ethereum, .arbitrumL2, .bunkerverseL3]

/-- The kebab-case name of a network. -/
def name : Network → String
  | .ethereum => "ethereum"
  | .arbitrumL2 => "arbitrum-l2"
  | .bunkerverseL3 => "bunkerverse-l3"

/-- The network with a kebab-case name. -/
def ofName? (text : String) : Option Network :=
  all.find? (·.name == text)

/-- The profile of a network. -/
def profile : Network → NetworkProfile
  | .ethereum =>
    { network := .ethereum, layer := .l1, name := "Ethereum (local)", chainId := localL1ChainId,
      rpcUrl := "http://localhost:8545", gasPriceWei := gwei, gasLimit := some 30000000 }
  | .arbitrumL2 =>
    { network := .arbitrumL2, layer := .l2, name := "Arbitrum One",
      chainId := arbitrumOneChainId, rpcUrl := "http://localhost:8547",
      gasPriceWei := gwei / 10, gasLimit := none }
  | .bunkerverseL3 =>
    { network := .bunkerverseL3, layer := .l3, name := "Bunkerverse L3",
      chainId := expectedChainId, rpcUrl := "http://localhost:8549",
      gasPriceWei := gwei / 100, gasLimit := none }

/-- The first network whose profile has the chain id. -/
def ofChainId? (chainId : Nat) : Option Network :=
  all.find? (·.profile.chainId == chainId)

end Network

namespace NetworkProfile

/-- The chain identity of a profile. -/
def identity (profile : NetworkProfile) : ChainIdentity :=
  { chainId := profile.chainId, name := profile.name }

/-- The JSON form of a profile. -/
def toJson (profile : NetworkProfile) : Json :=
  .object [
    ("network", .string profile.network.name),
    ("layer", .string profile.layer.name),
    ("name", .string profile.name),
    ("chain_id", .nat profile.chainId),
    ("rpc_url", .string profile.rpcUrl),
    ("gas_price_wei", .nat profile.gasPriceWei),
    ("gas_limit", .optional Json.nat profile.gasLimit)]

end NetworkProfile

end NftProbe
