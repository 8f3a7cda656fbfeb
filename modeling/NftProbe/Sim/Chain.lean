import NftProbe.Sim.Execute
import NftProbe.Client.Interface

/-!
# The simulated chain

An in-memory chain of token contracts that offers every client operation. Every included
transaction makes one block; a block's timestamp is the genesis time plus the elapsed block
intervals, in whole seconds. A transaction's hash is the hash of its sender, the running
transaction count and its data; a contract's address is the hash of its creator and the
creator's nonce. Gas is a fixed base per transaction, 16 per byte of data, and a fixed amount
per kind of call; the fee is taken from the sender's balance, never below zero.

Three switches model failures: the next transaction reverts, the next transaction is never
included, and `ownerOf` keeps answering with the owner before a transfer. A transaction that
reverts leaves its contract as it was.
-/

set_option autoImplicit false

namespace NftProbe.Sim

open Abi Contract

/-- The state of the simulated chain. -/
structure Chain where
  config : Config
  signers : List Address
  blockNumber : Nat := 0
  txCount : Nat := 0
  nonces : Table Address Nat := []
  balances : Table Address Word
  contracts : Table Address Collection := []
  /-- Contract creations and transactions received, whatever their result. -/
  mutatingCalls : Nat := 0
  revertNext : Bool := false
  dropNext : Bool := false
  staleOwnerReads : Bool := false

/-- An operation on the simulated chain. -/
abbrev SimM := ClientM Chain

namespace Chain

/-- A fresh chain: no blocks, and every signer holding the starting balance. -/
def create (config : Config) : Chain :=
  let signers := (List.range config.signerCount).map signerAddress
  { config, signers, balances := signers.map fun signer => (signer, config.initialBalance) }

/-- The timestamp of a block, or the overflow computing it. -/
def timestampAt (config : Config) (block : Nat) : Except Overflow Nat := do
  let elapsed ← U64.checkedMul block config.blockIntervalMs
  U64.checkedAdd config.genesisTimestamp (elapsed / 1000)

/-- The latest block, or the overflow computing its timestamp. -/
def snapshotOf (chain : Chain) : Except Overflow BlockSnapshot := do
  let timestamp ← timestampAt chain.config chain.blockNumber
  pure
    { chainId := chain.config.chainId, blockNumber := chain.blockNumber, timestamp,
      coinbase := sequencerCoinbase, gasLimit := chain.config.gasLimit }

end Chain

/-- The address of the contract that `source` creates with its `nonce`: the last 20 bytes of
the hash of the two. -/
def contractAddress (source : Address) (nonce : Nat) : Address :=
  Address.ofBytes ((Keccak.hash (source.toBytes ++ Bytes.ofNat 8 nonce)).drop 12)

/-- The gas of a transaction: the base, its data, and the call's own part. -/
def executionGas (data : Bytes) (base : Nat) : Nat :=
  21000 + 16 * data.length + base

/-- The call's own gas: per kind of call, and per item for a batch. -/
def callGas (call : Call) : Nat :=
  if call.signature = safeMintSignature then 50000
  else if call.signature = batchMintSignature then
    match call.args.head? with
    | some (.array items) => 48000 * items.length
    | _ => 48000
  else if call.signature = transferFromSignature then 35000
  else 24000

/-- The gas of a contract creation beyond its data. -/
def deployGas : Nat := 1250000

/-- Counts a creation or transaction. -/
def countMutation : SimM Unit :=
  modifyThe Chain fun chain => { chain with mutatingCalls := chain.mutatingCalls + 1 }

/-- Fails unless the chain can sign for `account`. -/
def ensureSigner (account : Address) : SimM Unit := do
  if !(← getThe Chain).signers.contains account then
    throw (.rpc (-32000) ("unknown account " ++ account.toHex))

/-- The hash of the transaction with data `data` that `source` sends as the `count`-th one. -/
def transactionHash (source : Address) (count : Nat) (data : Bytes) : Hash32 :=
  Hash32.ofBytes (Keccak.hash (source.toBytes ++ Bytes.ofNat 8 count ++ data))

/-- The hash of the next transaction, counting it. The count is a 64-bit number that is
incremented without a check; from a fresh chain it stays one for fewer than 2^64 events
(`Runs.counters_fit`). -/
def nextTxHash (source : Address) (data : Bytes) : SimM Hash32 := do
  let chain ← getThe Chain
  let count := chain.txCount + 1
  set { chain with txCount := count }
  pure (transactionHash source count data)

/-- The next transaction is included but reverts. -/
def revertNextTransaction : SimM Unit :=
  modifyThe Chain fun chain => { chain with revertNext := true }

/-- The next transaction is never included. -/
def dropNextInclusion : SimM Unit :=
  modifyThe Chain fun chain => { chain with dropNext := true }

/-- Switches stale owner reads on or off. -/
def setStaleOwnerReads (enabled : Bool) : SimM Unit :=
  modifyThe Chain fun chain => { chain with staleOwnerReads := enabled }

/-- Reads and clears the switch that drops the next transaction. -/
def takeDrop : SimM Bool := do
  let chain ← getThe Chain
  set { chain with dropNext := false }
  pure chain.dropNext

/-- Reads and clears the switch that reverts the next transaction. -/
def takeRevert : SimM Bool := do
  let chain ← getThe Chain
  set { chain with revertNext := false }
  pure chain.revertNext

/-- The chain once a transaction from `source` that used `gasUsed` is in a new block: the
sender's nonce moves on and its balance pays the fee, never below zero. The block number and
the nonce are 64-bit numbers incremented without a check; both stay within the transaction
count (`Runs.counters_fit`). -/
def Chain.includeFrom (chain : Chain) (source : Address) (gasUsed : Nat) : Chain :=
  { chain with
    blockNumber := chain.blockNumber + 1
    nonces := chain.nonces.update source 0 (· + 1)
    balances := chain.balances.update source Word.zero fun balance =>
      Word.ofNatWrap (balance.toNat - gasUsed * chain.config.gasPriceWei) }

/-- Includes a transaction in a new block and charges its gas to the sender. Logs are kept
only when it succeeded. -/
def includeTx (txHash : Hash32) (source : Address) (gasUsed : Nat) (status : Bool)
    (logs : List LogEntry) (created : Option Address) : SimM Receipt := do
  let chain ← getThe Chain
  let block := chain.blockNumber + 1
  set (chain.includeFrom source gasUsed)
  emit .trace ("Block " ++ toString block ++ ": tx " ++ txHash.toHex ++ " status " ++
    toString status ++ " gas " ++ toString gasUsed)
  pure
    { txHash, blockNumber := block, gasUsed, status, contractAddress := created,
      logs := if status then logs else [] }

/-- The tokens minted to the admin at creation, with their logs. -/
def premint (contract admin : Address) (count : Nat) (collection : Collection) :
    Except String (Collection × List LogEntry) :=
  (List.range count).foldlM
    (fun (collection, logs) index => do
      let (collection, event) ← collection.mint admin ("ipfs://premint/" ++ toString (index + 1))
      pure (collection, logs ++ [event.toLog contract]))
    (collection, [])

/-- The admin named by decoded constructor arguments: the last of them, when it is an address. -/
def adminOf (decoded : Except AbiError (List Token)) : Option Address :=
  decoded.toOption.bind fun tokens => tokens.getLast?.bind fun token => token.asAddress.toOption

/-- Creates a contract from `source` with init code and constructor arguments. The first
constructor argument is the admin; a creation without a readable admin reverts. -/
def deploy (source : Address) (bytecode args : Bytes) : SimM Deployment := do
  countMutation
  ensureSigner source
  if bytecode.isEmpty then throw (.execution "empty init code")
  let data := bytecode ++ args
  let txHash ← nextTxHash source data
  if ← takeDrop then
    emit .debug ("Dropping deployment " ++ txHash.toHex)
    return { address := none, outcome := .pending txHash }
  let chain ← getThe Chain
  let address := contractAddress source ((chain.nonces.get? source).getD 0)
  let decoded ← checked (decode [.address] args).run
  let admin := adminOf decoded
  let gasUsed := executionGas data deployGas
  let reverted ← takeRevert
  let (status, logs, created) ← match admin, reverted with
    | some admin, false =>
      match premint address admin chain.config.premintedSupply (Collection.create admin) with
      | .error reason => throw (.execution reason)
      | .ok (collection, logs) =>
        modifyThe Chain fun chain =>
          { chain with contracts := chain.contracts.insert address collection }
        pure (true, logs, some address)
    | _, _ => pure (false, [], none)
  let receipt ← includeTx txHash source gasUsed status logs created
  pure { address := receipt.contractAddress, outcome := .included receipt }

/-- Sends a call from `source` to the contract at `target` as a transaction. -/
def send (source target : Address) (call : Call) : SimM TxOutcome := do
  countMutation
  ensureSigner source
  let calldata := call.calldata
  if !(← getThe Chain).contracts.contains target then throw (.unknownContract target)
  let txHash ← nextTxHash source calldata
  if ← takeDrop then
    emit .debug ("Dropping transaction " ++ txHash.toHex ++ " (" ++ call.name ++ ")")
    return .pending txHash
  let gasUsed := executionGas calldata (callGas call)
  let (status, logs) ← if ← takeRevert then do
      emit .debug ("Reverting " ++ call.name ++ " on request")
      pure (false, [])
    else do
      let chain ← getThe Chain
      match chain.contracts.get? target with
      | none => throw (.unknownContract target)
      | some collection =>
        match ← checked (execute chain.staleOwnerReads target source calldata collection).run with
        | .ok (collection, logs) =>
          set { chain with contracts := chain.contracts.insert target collection }
          pure (true, logs)
        | .error reason =>
          emit .debug (call.name ++ " reverted: " ++ reason)
          pure (false, [])
  let receipt ← includeTx txHash source gasUsed status logs none
  pure (.included receipt)

/-- Reads from the contract at `target`; the answer goes through the ABI encoding and is
decoded with the call's return types, as a node's answer would. -/
def read (target : Address) (call : Call) : SimM (List Token) := do
  let chain ← getThe Chain
  let some collection := chain.contracts.get? target | throw (.unknownContract target)
  let answer ← checked
    (query chain.config chain.snapshotOf chain.staleOwnerReads collection call.calldata).run
  match answer with
  | .error reason => throw (.execution ("execution reverted: " ++ reason))
  | .ok tokens =>
    match ← checked (decode call.returns (encode tokens)).run with
    | .ok decoded => pure decoded
    | .error error => throw (.abi error)

/-- The balance of an account; zero for an unknown one. -/
def balanceOf (account : Address) : SimM Word := do
  pure (((← getThe Chain).balances.get? account).getD Word.zero)

/-- The latest block. -/
def latestBlock : SimM BlockSnapshot := do
  checked (← getThe Chain).snapshotOf

/-- The simulated chain as a client. -/
def client : Client Chain where
  chainId := do pure (← getThe Chain).config.chainId
  signers := do pure (← getThe Chain).signers
  balance := balanceOf
  snapshot := latestBlock
  deploy := deploy
  send := send
  read := read

end NftProbe.Sim
