import NftProbe.Abi.Call

/-!
# The NFT contract's functions

The fixed set of functions the program calls on the NFT contract, each as a builder of an
`Abi.Call`: the transactions `safeMint`, `batchMint`, `transferFrom` and `approve`, and the
reads `totalSupply`, `ownerOf`, `tokenURI`, `getContractInfo`, `validateL3Chain` and
`getNextTokenId` with the types they return.
-/

set_option autoImplicit false

namespace NftProbe.Contract

open Abi

/-- The name the program gives a contract whose artifact names none. -/
def defaultContractName : String := "BunkerverseNFT"

def safeMintSignature : String := "safeMint(address,string)"
def batchMintSignature : String := "batchMint(address[],string[])"
def transferFromSignature : String := "transferFrom(address,address,uint256)"
def approveSignature : String := "approve(address,uint256)"
def totalSupplySignature : String := "totalSupply()"
def ownerOfSignature : String := "ownerOf(uint256)"
def tokenUriSignature : String := "tokenURI(uint256)"
def getContractInfoSignature : String := "getContractInfo()"
def validateL3ChainSignature : String := "validateL3Chain()"
def getNextTokenIdSignature : String := "getNextTokenId()"

/-- The event of every transfer, mints included. -/
def transferEventSignature : String := "Transfer(address,address,uint256)"

/-- The types `getContractInfo()` returns: name, symbol, supply, version, chain name, id. -/
def contractInfoTypes : List ParamType :=
  [.string, .string, .uint, .string, .string, .uint]

/-- The types `validateL3Chain()` returns: chain id, block, timestamp, coinbase, gas limit. -/
def l3ViewTypes : List ParamType :=
  [.uint, .uint, .uint, .address, .uint]

/-- Mint one token with a URI to `recipient`. -/
def safeMint (recipient : Address) (uri : String) : Call :=
  { signature := safeMintSignature, args := [.address recipient, .string uri] }

/-- Mint one token per recipient, with the URIs in the same order. -/
def batchMint (recipients : List Address) (uris : List String) : Call :=
  { signature := batchMintSignature,
    args := [.array (recipients.map .address), .array (uris.map .string)] }

/-- Move a token from its owner to `to`. -/
def transferFrom (source target : Address) (tokenId : Nat) : Call :=
  { signature := transferFromSignature,
    args := [.address source, .address target, .uint (Word.ofU64 tokenId)] }

/-- Let `spender` transfer a token. -/
def approve (spender : Address) (tokenId : Nat) : Call :=
  { signature := approveSignature, args := [.address spender, .uint (Word.ofU64 tokenId)] }

/-- The number of tokens in existence. -/
def totalSupply : Call :=
  { signature := totalSupplySignature, args := [], returns := [.uint] }

/-- The owner of a token. -/
def ownerOf (tokenId : Nat) : Call :=
  { signature := ownerOfSignature, args := [.uint (Word.ofU64 tokenId)], returns := [.address] }

/-- The URI of a token. -/
def tokenUri (tokenId : Nat) : Call :=
  { signature := tokenUriSignature, args := [.uint (Word.ofU64 tokenId)], returns := [.string] }

/-- The contract's metadata. -/
def getContractInfo : Call :=
  { signature := getContractInfoSignature, args := [], returns := contractInfoTypes }

/-- The block facts as the contract observes them. -/
def validateL3Chain : Call :=
  { signature := validateL3ChainSignature, args := [], returns := l3ViewTypes }

/-- The id the next mint will take. -/
def getNextTokenId : Call :=
  { signature := getNextTokenIdSignature, args := [], returns := [.uint] }

/-- The constructor arguments: the admin address. -/
def constructorArgs (admin : Address) : Bytes :=
  encode [.address admin]

end NftProbe.Contract
