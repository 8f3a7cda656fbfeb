import NftProbe.Sim.Collection
import NftProbe.Sim.Config
import NftProbe.Abi.Decode
import NftProbe.Contract.Views

/-!
# Executing calls against a collection

`execute` runs a transaction's calldata against a collection and `query` answers a read. Both
dispatch on the selector only, decode the arguments with the function's parameter types, and
fail with a revert reason. Arguments are taken from the end of the decoded list, so the last
parameter is checked first.

A decoding step can halt on an overflow, so both run in `Reverting`, which fails with a reason
or halts.
-/

set_option autoImplicit false

namespace NftProbe.Sim

open Abi Contract

/-- A computation that may revert with a reason, or halt on an overflow. -/
abbrev Reverting := ExceptT String (Except Overflow)

/-- Reverts with `reason`. -/
def revert {α : Type} (reason : String) : Reverting α :=
  throw reason

/-- Lifts a result whose error is a revert reason. -/
def orRevert {α : Type} (result : Except String α) : Reverting α :=
  ExceptT.mk (pure result)

/-- Lifts a conversion of a value, its error text becoming the reason. -/
def converting {α : Type} (result : Except AbiError α) : Reverting α :=
  orRevert (result.mapError AbiError.message)

/-- The selector and the arguments of calldata. -/
def splitCalldata (calldata : Bytes) : Reverting (Bytes × Bytes) :=
  if calldata.length < 4 then revert "calldata shorter than a selector"
  else pure (calldata.take 4, calldata.drop 4)

/-- The arguments decoded with the function's parameter types. -/
def decodeArgs (types : List ParamType) (data : Bytes) : Reverting (List Token) :=
  ExceptT.mk do
    match ← (decode types data).run with
    | .ok tokens => pure (.ok tokens)
    | .error error => pure (.error ("invalid calldata: " ++ error.message))

/-- The revert reason of a selector no function has. -/
def unknownSelector (selector : Bytes) : String :=
  "unknown function selector 0x" ++ Hex.encode selector

/-- Mints each recipient its metadata in order, collecting the transfer logs. -/
def mintEach (contract : Address) :
    Collection → List (Token × Token) → Reverting (Collection × List LogEntry)
  | collection, [] => pure (collection, [])
  | collection, (recipient, uri) :: rest => do
    let target ← converting recipient.asAddress
    let text ← converting uri.asString
    let (collection, event) ← orRevert (collection.mint target text)
    let (collection, logs) ← mintEach contract collection rest
    pure (collection, event.toLog contract :: logs)

/-- Runs a transaction from `caller` against the collection at `contract`; `stale` says
whether stale owner reads are switched on. Returns the new state and the logs. -/
def execute (stale : Bool) (contract caller : Address) (calldata : Bytes)
    (collection : Collection) : Reverting (Collection × List LogEntry) := do
  let (selector, args) ← splitCalldata calldata
  if selector = Abi.selector safeMintSignature then
    match ← decodeArgs [.address, .string] args with
    | [target, uri] =>
      let uri ← converting uri.asString
      let target ← converting target.asAddress
      orRevert (collection.onlyAdmin caller)
      let (collection, event) ← orRevert (collection.mint target uri)
      pure (collection, [event.toLog contract])
    | _ => revert "missing argument"
  else if selector = Abi.selector batchMintSignature then
    match ← decodeArgs [.array .address, .array .string] args with
    | [recipients, uris] =>
      let uris ← converting uris.asArray
      let recipients ← converting recipients.asArray
      orRevert (collection.onlyAdmin caller)
      if recipients.length ≠ uris.length then revert "Arrays length mismatch"
      else if recipients.isEmpty then revert "Empty batch"
      else mintEach contract collection (recipients.zip uris)
    | _ => revert "missing argument"
  else if selector = Abi.selector transferFromSignature then
    match ← decodeArgs [.address, .address, .uint] args with
    | [source, target, tokenId] =>
      let tokenId ← converting tokenId.asU64
      let target ← converting target.asAddress
      let source ← converting source.asAddress
      let owner ← orRevert (collection.ownerOf tokenId)
      if owner ≠ source then
        revert ("ERC721IncorrectOwner(" ++ source.toHex ++ ", " ++ toString tokenId ++ ", " ++
          owner.toHex ++ ")")
      else if !collection.authorized caller owner tokenId then
        revert ("ERC721InsufficientApproval(" ++ caller.toHex ++ ", " ++ toString tokenId ++ ")")
      else if target.isZero then revert "ERC721InvalidReceiver(0x0)"
      else
        let staleOwners :=
          if stale && !collection.staleOwners.contains tokenId then
            collection.staleOwners.insert tokenId source
          else collection.staleOwners
        pure ({ collection with
            approvals := collection.approvals.erase tokenId
            staleOwners
            owners := collection.owners.insert tokenId target },
          [TransferEvent.toLog { source, target, tokenId } contract])
    | _ => revert "missing argument"
  else if selector = Abi.selector approveSignature then
    match ← decodeArgs [.address, .uint] args with
    | [spender, tokenId] =>
      let tokenId ← converting tokenId.asU64
      let spender ← converting spender.asAddress
      let owner ← orRevert (collection.ownerOf tokenId)
      if caller ≠ owner ∧ !collection.operators.contains (owner, caller) then
        revert ("ERC721InvalidApprover(" ++ caller.toHex ++ ")")
      else pure ({ collection with approvals := collection.approvals.insert tokenId spender }, [])
    | _ => revert "missing argument"
  else revert (unknownSelector selector)

/-- The token id argument of a read. -/
def tokenIdArg (args : Bytes) : Reverting Nat := do
  match ← decodeArgs [.uint] args with
  | [tokenId] => converting tokenId.asU64
  | _ => revert "missing argument"

/-- Answers a read against a collection. `stale` says whether stale owner reads are on and
`snapshot` is the latest block, or the overflow computing it. -/
def query (config : Config) (snapshot : Except Overflow BlockSnapshot) (stale : Bool)
    (collection : Collection) (calldata : Bytes) : Reverting (List Token) := do
  let (selector, args) ← splitCalldata calldata
  if selector = Abi.selector totalSupplySignature then
    pure [.uint (Word.ofU64 collection.totalSupply)]
  else if selector = Abi.selector getNextTokenIdSignature then
    pure [.uint (Word.ofU64 collection.nextTokenId)]
  else if selector = Abi.selector ownerOfSignature then
    let tokenId ← tokenIdArg args
    let staleOwner := if stale then collection.staleOwners.get? tokenId else none
    match staleOwner with
    | some owner => pure [.address owner]
    | none => pure [.address (← orRevert (collection.ownerOf tokenId))]
  else if selector = Abi.selector tokenUriSignature then
    let tokenId ← tokenIdArg args
    let _ ← orRevert (collection.ownerOf tokenId)
    pure [.string ((collection.uris.get? tokenId).getD "")]
  else if selector = Abi.selector getContractInfoSignature then
    pure (ContractInfo.toTokens
      { name := config.name, symbol := config.symbol, totalSupply := collection.totalSupply,
        version := config.version, chainName := config.chainName,
        chainId := config.observedChainId })
  else if selector = Abi.selector validateL3ChainSignature then
    let snapshot ← liftM snapshot
    pure (L3View.toTokens { L3View.ofSnapshot snapshot with chainId := config.observedChainId })
  else revert (unknownSelector selector)

end NftProbe.Sim
