import NftProbe.Defaults
import NftProbe.Address
import NftProbe.Keccak

/-!
# Simulated chain settings

The settings of the in-memory chain: its chain id (and the one its contracts observe, which
differs only to model a misconfigured endpoint), gas limit, block cadence, genesis time, the
number of signing accounts and their starting balance, the gas price, the supply minted to the
admin at creation, and the metadata its contracts report.

Signer `i` is the last 20 bytes of the Keccak-256 hash of `orbit-sim-signer-i`, so every
account is derived from its index.
-/

set_option autoImplicit false

namespace NftProbe.Sim

/-- The settings of a simulated chain. -/
structure Config where
  chainId : Nat := expectedChainId
  /-- The chain id the contracts observe; `none` means the chain's own. -/
  contractChainId : Option Nat := none
  gasLimit : Nat := 0x4000000000000
  blockIntervalMs : Nat := 250
  genesisTimestamp : Nat := 1700000000
  signerCount : Nat := 3
  initialBalance : Word := Word.ofNatWrap (10000 * weiPerEther)
  gasPriceWei : Nat := gwei / 100
  /-- Tokens minted to the admin when a contract is created. -/
  premintedSupply : Nat := 0
  name : String := expectedContractName
  symbol : String := expectedContractSymbol
  version : String := expectedContractVersion
  chainName : String := expectedChainName

/-- The chain id the contracts observe. -/
def Config.observedChainId (config : Config) : Nat :=
  config.contractChainId.getD config.chainId

/-- Signer account `index`. -/
def signerAddress (index : Nat) : Address :=
  Address.ofBytes ((Keccak.hash ("orbit-sim-signer-" ++ toString index).toUTF8.toList).drop 12)

/-- The sequencer address, which the chain reports as the coinbase of every block. -/
def sequencerCoinbase : Address :=
  Address.ofBytes [0xa4, 0xb0, 0x00, 0x00, 0x00, 0x00, 0x00, 0x00, 0x00, 0x00, 0x00, 0x73, 0x65,
    0x71, 0x75, 0x65, 0x6e, 0x63, 0x65, 0x72]

/-- The init code the simulated chain is given by default. -/
def demoBytecode : Bytes := [0x60, 0x80, 0x60, 0x40, 0x52]

end NftProbe.Sim
