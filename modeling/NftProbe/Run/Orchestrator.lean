import NftProbe.Run.Deploy
import NftProbe.Run.ChainCheck
import NftProbe.Run.Mint
import NftProbe.Run.Transfer
import NftProbe.Run.Validation

/-!
# The two workflows

The deploy workflow lists a signer, gates on the chain, deploys, gates again, and validates
the contract's metadata. The test workflow needs three signers (a deployer and two users) and
after the same deployment mints one token to the first user and a batch to both users and the
deployer, checks the supply, transfers the single token from the first user to the second,
audits every token, checks the chain once more and validates the metadata.

A failure of the chain gate rejects the chain; a fatal error, or any error of the last chain
check, stops the run and aborts it. Other errors are recorded and the run goes on.
-/

set_option autoImplicit false

namespace NftProbe.Run

open StepM Contract

/-- The signers the test workflow needs. -/
def fullWorkflowSigners : Nat := 3

/-- A client with what the runs expect and mint. -/
structure Orchestrator (σ : Type) where
  client : Client σ
  expectations : Expectations := {}
  demoMints : DemoMints := {}

namespace Orchestrator

variable {σ : Type} (orchestrator : Orchestrator σ)

/-- Enters the deploying phase and lists at least `needed` signers. -/
def start (needed : Nat) : StepM σ (List Address) := do
  transition .deploying
  let listed ← call orchestrator.client.signers
  let signers : Except HarnessError (List Address) := match listed with
    | .error error => .error (.deploymentFailed ("cannot list signers: " ++ error.message))
    | .ok signers =>
      if signers.length < needed then
        .error (.deploymentFailed (toString needed ++
          " signer identities needed, client offers " ++ toString signers.length))
      else .ok signers
  if let .error error := signers then
    record (StepOutcome.failed deployStep error)
  fromResult signers

/-- Checks the chain; a failed check rejects it. -/
def gate (label : String) : StepM σ Unit :=
  tryCatch (discard (checkL3 orchestrator.client orchestrator.expectations label)) fun error => do
    transition .chainRejected
    throw error

/-- Deploys between two chain gates and marks the chain verified. -/
def deployAndVerify (artifact : Artifact) (deployer : Address) : StepM σ Unit := do
  orchestrator.gate preDeploy
  emit .info "--- Deploying ---"
  discard (deploy orchestrator.client artifact deployer deployer)
  orchestrator.gate postDeploy
  transition .chainVerified

/-- The signer at a position. -/
def signerAt (signers : List Address) (index : Nat) : StepM σ Address :=
  match signers[index]? with
  | some signer => pure signer
  | none => throw (.deploymentFailed "signer list is too short")

/-- The steps of the deploy workflow. -/
def executeDeploy (artifact : Artifact) : StepM σ Unit := do
  let signers ← orchestrator.start 1
  orchestrator.deployAndVerify artifact (← signerAt signers 0)
  transition .validating
  discard (tolerate (validateMetadata orchestrator.client orchestrator.expectations))
  transition .completed

/-- The minting phase of the test workflow: the baseline, one token to the first user, a batch
to both users and the deployer, and the supply check. Returns the single token's id, when it was
minted. -/
def mintPhase (deployer user1 user2 : Address) : StepM σ (Option Nat) := do
  let client := orchestrator.client
  transition .minting
  emit .info "--- Minting ---"
  discard (tolerate (readBaselineSupply client))
  let single ← tolerate (mintOne client deployer user1 orchestrator.demoMints.singleUri)
  discard (tolerate
    (mintBatch client deployer [user1, user2, deployer] orchestrator.demoMints.batchUris))
  discard (tolerate (checkSupply client))
  pure single

/-- The transferring phase of the test workflow: the single token goes from the first user to
the second, and every token is audited. -/
def transferPhase (single : Option Nat) (user1 user2 : Address) : StepM σ Unit := do
  let client := orchestrator.client
  transition .transferring
  emit .info "--- Transferring ---"
  match single with
  | some tokenId => discard (tolerate (transferToken client tokenId user1 user2))
  | none => record (StepOutcome.skipped transferStep "the single mint produced no token")
  discard (auditTokens client)

/-- The validating phase of the test workflow: a last chain check, which the run does not
tolerate, and the metadata. -/
def validatePhase : StepM σ Unit := do
  transition .validating
  emit .info "--- Validating ---"
  discard (checkL3 orchestrator.client orchestrator.expectations postSequence)
  discard (tolerate (validateMetadata orchestrator.client orchestrator.expectations))
  transition .completed

/-- The steps of the test workflow. -/
def executeFull (artifact : Artifact) : StepM σ Unit := do
  let signers ← orchestrator.start fullWorkflowSigners
  let deployer ← signerAt signers 0
  let user1 ← signerAt signers 1
  let user2 ← signerAt signers 2
  emit .info ("Signers: deployer " ++ deployer.short ++ ", user1 " ++ user1.short ++
    ", user2 " ++ user2.short)
  orchestrator.deployAndVerify artifact deployer
  let single ← orchestrator.mintPhase deployer user1 user2
  orchestrator.transferPhase single user1 user2
  orchestrator.validatePhase

/-- Runs the steps of a workflow in a fresh context and returns the client's state and the
context at the end. -/
def runWorkflow (workflow : Workflow) (runId startedAt : String) (artifact : Artifact)
    (client : σ) : Logged (σ × Context) := do
  let context := Context.create runId startedAt workflow
  emit .info ("Starting " ++ workflow.name ++ " run " ++ runId)
  let steps : StepM σ Unit := tryCatch
    (match workflow with
      | .deploy => orchestrator.executeDeploy artifact
      | .test => orchestrator.executeFull artifact)
    fun error => do
      emit .error ("Run " ++ runId ++ " stopped: " ++ error.message)
      abort
  let (_, session) ← (ExceptT.run steps).run { client, context }
  pure (session.client, session.context)

end Orchestrator

end NftProbe.Run
