import NftProbe.Run.Step
import NftProbe.Contract.Transfer
import NftProbe.Contract.Views

/-!
# Minting and the supply

The mint steps send a mint from the admin, wait for it to succeed, and check the mint events of
the receipt: one per recipient, in order, to that recipient, with token ids that follow each
other. The supply steps read `totalSupply` before minting, as the baseline, and after, where it
must equal the baseline plus the tokens minted in the run.
-/

set_option autoImplicit false

namespace NftProbe.Run

open StepM Contract Abi

/-- The name of the single mint step. -/
def mintOneStep : String := "mint_one"

/-- The name of the batch mint step. -/
def mintBatchStep : String := "mint_batch"

/-- The name of the baseline step. -/
def baselineStep : String := "baseline_supply"

/-- The name of the supply check. -/
def supplyCheckStep : String := "supply_check"

/-- Checks mint events against the recipients from `position` on; `previous` is the token id
of the event before. Returns the token ids. -/
def verifyMintedFrom : Nat → Option Nat → List (TransferEvent × Address) →
    ExceptT HarnessError (Except Overflow) (List Nat)
  | _, _, [] => pure []
  | position, previous, (event, recipient) :: rest => do
    if event.target ≠ recipient then
      throw (.mintFailed ("token " ++ toString event.tokenId ++ " minted to " ++
        event.target.toHex ++ ", expected " ++ recipient.toHex ++ " at position " ++
        toString position))
    if let some previous := previous then
      let next ← liftM (U64.checkedAdd previous 1)
      if event.tokenId ≠ next then
        throw (.mintFailed ("token ids are not contiguous: " ++ toString event.tokenId ++
          " follows " ++ toString previous))
    let ids ← verifyMintedFrom (position + 1) (some event.tokenId) rest
    pure (event.tokenId :: ids)

/-- The token ids of mint events that match the recipients one to one. -/
def verifyMinted (events : List TransferEvent) (recipients : List Address) :
    ExceptT HarnessError (Except Overflow) (List Nat) :=
  if events.length ≠ recipients.length then
    throw (.mintFailed ("expected " ++ toString recipients.length ++
      " minted tokens, receipt reports " ++ toString events.length))
  else verifyMintedFrom 0 none (events.zip recipients)

variable {σ : Type}

/-- Runs a check that may halt. -/
def StepM.checking {α : Type} (check : ExceptT HarnessError (Except Overflow) α) : StepM σ α := do
  fromResult (← checked check.run)

/-- Sends a mint from `minter` and returns its receipt and mint events. -/
def submitMint (client : Client σ) (minter : Address) (mint : Call) :
    StepM σ (Receipt × List TransferEvent) := do
  ensureMutable
  let contract ← contract
  emit .debug ("Submitting " ++ mint.render ++ " from " ++ minter.short)
  let outcome ← match ← call (client.send minter contract mint) with
    | .ok outcome => pure outcome
    | .error error => throw (.mintFailed error.message)
  let receipt ← fromResult ((successfulReceipt outcome).mapError .mintFailed)
  let events ← fromResult ((TransferEvent.collect receipt contract).mapError .abi)
  pure (receipt, events.filter TransferEvent.isMint)

/-- Mints one token to `recipient` and records it. -/
def mintOne (client : Client σ) (minter recipient : Address) (uri : String) : StepM σ Nat :=
  tryCatch
    (do
      let (receipt, events) ← submitMint client minter (safeMint recipient uri)
      let ids ← checking (verifyMinted events [recipient])
      let some tokenId := ids.head? | throw (.mintFailed "no token minted")
      modifyContext (·.addToken { tokenId, owner := recipient, uri })
      emit .info ("Minted token " ++ toString tokenId ++ " to " ++ recipient.short ++
        " (gas used: " ++ toString receipt.gasUsed ++ ")")
      record ((StepOutcome.passed mintOneStep).detail "tokenId" (.nat tokenId)
        |>.detail "recipient" (.string recipient.toHex)
        |>.detail "uri" (.string uri)
        |>.detail "txHash" (.string receipt.txHash.toHex)
        |>.detail "gasUsed" (.nat receipt.gasUsed))
      pure tokenId)
    fun error => do
      emit .warn ("Single mint failed: " ++ error.message)
      record ((StepOutcome.failed mintOneStep error).detail "recipient" (.string recipient.toHex)
        |>.detail "uri" (.string uri))
      throw error

/-- Refuses a batch whose lists differ in length, or are empty. -/
def checkBatchArguments (recipients : List Address) (uris : List String) :
    Except HarnessError Unit :=
  if recipients.length ≠ uris.length then
    .error (.argumentMismatch (toString recipients.length ++ " recipients but " ++
      toString uris.length ++ " token URIs"))
  else if recipients.isEmpty then
    .error (.argumentMismatch "batch mint needs at least one recipient")
  else .ok ()

/-- `[1, 2, 3]`. -/
def renderIds (ids : List Nat) : String :=
  "[" ++ ", ".intercalate (ids.map toString) ++ "]"

/-- Mints one token per recipient in one transaction and records them. -/
def mintBatch (client : Client σ) (minter : Address) (recipients : List Address)
    (uris : List String) : StepM σ (List Nat) :=
  tryCatch
    (do
      fromResult (checkBatchArguments recipients uris)
      let (receipt, events) ← submitMint client minter (batchMint recipients uris)
      let ids ← checking (verifyMinted events recipients)
      for ((tokenId, owner), uri) in (ids.zip recipients).zip uris do
        modifyContext (·.addToken { tokenId, owner, uri })
      emit .info ("Batch minted " ++ toString ids.length ++ " tokens: " ++ renderIds ids ++
        " (gas used: " ++ toString receipt.gasUsed ++ ")")
      record ((StepOutcome.passed mintBatchStep).detail "tokenIds" (.array (ids.map Json.nat))
        |>.detail "recipients" (.array (recipients.map fun r => .string r.toHex))
        |>.detail "txHash" (.string receipt.txHash.toHex)
        |>.detail "gasUsed" (.nat receipt.gasUsed))
      pure ids)
    fun error => do
      emit .warn ("Batch mint failed: " ++ error.message)
      record ((StepOutcome.failed mintBatchStep error).detail "recipients" (.nat recipients.length)
        |>.detail "uris" (.nat uris.length))
      throw error

/-- Reads `totalSupply` from the deployed contract. -/
def readTotalSupply (client : Client σ) : StepM σ Nat := do
  let contract ← contract
  let tokens ← match ← call (client.read contract totalSupply) with
    | .ok tokens => pure tokens
    | .error error => throw (.client error)
  fromResult ((single tokens >>= Token.asU64).mapError .abi)

/-- Reads the supply before minting and records it as the baseline. -/
def readBaselineSupply (client : Client σ) : StepM σ Nat :=
  tryCatch
    (do
      let supply ← readTotalSupply client
      modifyContext (·.setBaselineSupply supply)
      record ((StepOutcome.passed baselineStep).detail "totalSupply" (.nat supply))
      pure supply)
    fun error => do
      record (StepOutcome.failed baselineStep error)
      throw error

/-- Checks the supply against the baseline plus the tokens minted; skipped without a
baseline. -/
def checkSupply (client : Client σ) : StepM σ (Option Nat) := do
  let some expected ← checked (← context).expectedSupply
    | record (StepOutcome.skipped supplyCheckStep "baseline supply was not read")
      pure none
  tryCatch
    (do
      let observed ← readTotalSupply client
      if observed ≠ expected then throw (.supplyInvariantViolation expected observed)
      emit .info ("Total supply: " ++ toString observed ++ " (expected " ++ toString expected ++
        ")")
      let minted := (← context).tokenCount
      record ((StepOutcome.passed supplyCheckStep).detail "totalSupply" (.nat observed)
        |>.detail "minted" (.nat minted))
      pure (some observed))
    fun error => do
      emit .warn error.message
      record (StepOutcome.failed supplyCheckStep error)
      throw error

end NftProbe.Run
