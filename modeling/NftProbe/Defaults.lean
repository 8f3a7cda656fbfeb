/-!
# Expected values and defaults

The chain every mutating step is gated on, the metadata the deployed contract is expected to
report, the default wait for inclusion, and the metadata of the demonstration mints.
-/

set_option autoImplicit false

namespace NftProbe

/-- The chain id of the L3 chain the runs target. -/
def expectedChainId : Nat := 33701

/-- The chain id of Arbitrum One. -/
def arbitrumOneChainId : Nat := 42161

/-- The chain id of a local L1 node. -/
def localL1ChainId : Nat := 31337

/-- The contract name the deployed contract reports. -/
def expectedContractName : String := "Bunkerverse NFT"

/-- The contract symbol the deployed contract reports. -/
def expectedContractSymbol : String := "BVNFT"

/-- The contract version the deployed contract reports. -/
def expectedContractVersion : String := "1.0.0"

/-- The chain name the deployed contract reports. -/
def expectedChainName : String := "Bunkerverse L3"

/-- How long to wait for a transaction to be included, in milliseconds. -/
def defaultInclusionTimeoutMs : Nat := 60000

/-- How often to poll for a receipt, in milliseconds. -/
def defaultPollIntervalMs : Nat := 250

/-- The metadata of the single demonstration mint. -/
def demoSingleMintUri : String := "ipfs://QmYourFirstNFTMetadataHash"

/-- The metadata of the demonstration batch mint. -/
def demoBatchMintUris : List String :=
  ["ipfs://QmBatchNFT1MetadataHash", "ipfs://QmBatchNFT2MetadataHash",
    "ipfs://QmBatchNFT3MetadataHash"]

/-- One gwei in wei. -/
def gwei : Nat := 1000000000

/-- One ether in wei. -/
def weiPerEther : Nat := 1000000000000000000

end NftProbe
