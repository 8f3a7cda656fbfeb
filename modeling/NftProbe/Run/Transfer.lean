import NftProbe.Run.Step
import NftProbe.Contract.Views
import NftProbe.Text.Quoted

/-!
# Transfers and the token audit

The transfer step moves a token minted in the run from its recorded owner, sends the transfer
from `sender`, and reads `ownerOf` back: the transfer counts only when the new owner shows.
When the owner cannot be read the record still follows the transfer, which did go through.

The audit reads the owner and the metadata of every recorded token, in mint order, and reports
each difference from the records as a mismatch.
-/

set_option autoImplicit false

namespace NftProbe.Run

open StepM Contract Abi

/-- The name of the transfer step. -/
def transferStep : String := "transfer"

/-- The name of the audit step. -/
def auditStep : String := "token_audit"

variable {σ : Type}

/-- Reads one value from the contract and converts it. -/
def readSingle {α : Type} (client : Client σ) (contract : Address) (query : Call)
    (convert : Token → Except AbiError α) : StepM σ (Except HarnessError α) := do
  match ← call (client.read contract query) with
  | .ok tokens => pure ((single tokens >>= convert).mapError .abi)
  | .error error => pure (.error (.client error))

/-- Reads the owner of a token. -/
def readOwner (client : Client σ) (contract : Address) (tokenId : Nat) :
    StepM σ (Except HarnessError Address) :=
  readSingle client contract (ownerOf tokenId) Token.asAddress

/-- Reads the metadata of a token. -/
def readUri (client : Client σ) (contract : Address) (tokenId : Nat) :
    StepM σ (Except HarnessError String) :=
  readSingle client contract (tokenUri tokenId) Token.asString

/-- The transfer's outcome, or the error that stopped it. -/
def tryTransfer (client : Client σ) (tokenId : Nat) (sender recipient : Address) :
    StepM σ StepOutcome := do
  ensureMutable
  let contract ← contract
  let some record := (← context).token? tokenId
    | throw (.transferRejected tokenId "token was not minted in this run")
  let source := record.owner
  emit .info ("Transferring token " ++ toString tokenId ++ " from " ++ source.short ++ " to " ++
    recipient.short ++ " (sender " ++ sender.short ++ ")")
  let outcome ← match ← call (client.send sender contract (transferFrom source recipient tokenId)) with
    | .ok outcome => pure outcome
    | .error error => throw (.transferRejected tokenId error.message)
  let receipt ← fromResult ((successfulReceipt outcome).mapError (.transferRejected tokenId))
  let owner ← match ← readOwner client contract tokenId with
    | .ok owner => pure owner
    | .error error => throw (.ownerUnreadable tokenId recipient error.message)
  if owner ≠ recipient then throw (.transferNotReflected tokenId recipient owner)
  emit .info ("Token " ++ toString tokenId ++ " now owned by " ++ owner.short ++ " (gas used: " ++
    toString receipt.gasUsed ++ ")")
  pure ((StepOutcome.passed transferStep).detail "tokenId" (.nat tokenId)
    |>.detail "from" (.string source.toHex)
    |>.detail "to" (.string recipient.toHex)
    |>.detail "sender" (.string sender.toHex)
    |>.detail "txHash" (.string receipt.txHash.toHex)
    |>.detail "gasUsed" (.nat receipt.gasUsed))

/-- Transfers a token and records the outcome. -/
def transferToken (client : Client σ) (tokenId : Nat) (sender recipient : Address) :
    StepM σ Unit :=
  tryCatch
    (do
      let outcome ← tryTransfer client tokenId sender recipient
      modifyContext (·.setOwner tokenId recipient)
      record outcome)
    fun error => do
      emit .warn error.message
      if let .ownerUnreadable .. := error then
        modifyContext (·.setOwner tokenId recipient)
      record ((StepOutcome.failed transferStep error).detail "sender" (.string sender.toHex)
        |>.detail "to" (.string recipient.toHex))
      throw error

/-- The mismatches between a token's record and what the contract reports. -/
def auditRecord (record : TokenRecord) (owner : Except HarnessError Address)
    (uri : Except HarnessError String) : List HarnessError :=
  let ownerField := "owner[" ++ toString record.tokenId ++ "]"
  let uriField := "tokenURI[" ++ toString record.tokenId ++ "]"
  let ownerMismatch : List HarnessError := match owner with
    | .ok owner =>
      if owner = record.owner then []
      else [.validationMismatch ownerField record.owner.toHex owner.toHex]
    | .error error =>
      [.validationMismatch ownerField record.owner.toHex ("read failed: " ++ error.message)]
  let uriMismatch : List HarnessError := match uri with
    | .ok uri => if uri = record.uri then [] else [.validationMismatch uriField record.uri uri]
    | .error error => [.validationMismatch uriField record.uri ("read failed: " ++ error.message)]
  ownerMismatch ++ uriMismatch

/-- The structural form of a read's result. -/
def resultText {α : Type} (render : α → String) : Except HarnessError α → String
  | .ok value => "Ok(" ++ render value ++ ")"
  | .error error => "Err(" ++ error.debugText ++ ")"

/-- Audits every recorded token and returns the number of mismatches. -/
def auditTokens (client : Client σ) : StepM σ Nat := do
  match (← context).contract with
  | .error error =>
    record (StepOutcome.failed auditStep error)
    pure 0
  | .ok contract =>
    let records := (← context).tokenRecords
    let mut mismatches : List HarnessError := []
    for token in records do
      let owner ← readOwner client contract token.tokenId
      let uri ← readUri client contract token.tokenId
      emit .debug ("Token " ++ toString token.tokenId ++ ": owner " ++
        resultText Address.toHex owner ++ ", uri " ++ resultText Text.quote uri)
      mismatches := mismatches ++ auditRecord token owner uri
    if mismatches.isEmpty then
      emit .info ("Audited " ++ toString records.length ++ " tokens, all records match")
      record ((StepOutcome.passed auditStep).detail "tokens" (.nat records.length)
        |>.detail "tokenIds" (.array (records.map fun token => .nat token.tokenId)))
    else
      for error in mismatches do
        emit .warn error.message
        record (StepOutcome.failed auditStep error)
    pure mismatches.length

end NftProbe.Run
