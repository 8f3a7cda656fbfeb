import NftProbe.Run.Step
import NftProbe.Contract.Artifact
import NftProbe.Ether

/-!
# The deploy step

Creates the contract from the deployer with an admin as its constructor argument, and waits
for the creation to be confirmed. The deployer's balance is read first, for the record only:
a client that cannot report it can still deploy.
-/

set_option autoImplicit false

namespace NftProbe.Run

open StepM Contract

/-- The name of the deploy step. -/
def deployStep : String := "deploy"

variable {σ : Type}

/-- The deployment and its outcome, or the error that stopped it. -/
def tryDeploy (client : Client σ) (artifact : Artifact) (deployer admin : Address) :
    StepM σ (DeploymentResult × StepOutcome) := do
  ensureMutable
  emit .info ("Deploying " ++ artifact.contractName ++ " from " ++ deployer.short ++
    " (admin " ++ admin.short ++ ")")
  let balance ← match ← call (client.balance deployer) with
    | .ok balance => do
      emit .info ("Deployer balance: " ++ formatEther balance ++ " ETH")
      pure (some balance)
    | .error error => do
      emit .warn ("Could not read deployer balance: " ++ error.message)
      pure none
  let deployment ← match ← call (client.deploy deployer artifact.bytecode (constructorArgs admin)) with
    | .ok deployment => pure deployment
    | .error error => throw (.deploymentFailed error.message)
  let receipt ← fromResult ((successfulReceipt deployment.outcome).mapError .deploymentFailed)
  let some contractAddress := deployment.createdAddress
    | throw (.deploymentFailed "receipt carries no contract address")
  let result : DeploymentResult :=
    { contractAddress, deployerAddress := deployer, adminAddress := admin,
      txHash := receipt.txHash, blockNumber := receipt.blockNumber, gasUsed := receipt.gasUsed }
  let updated ← fromResult ((← context).setDeployment result)
  modifyContext fun _ => updated
  emit .info (artifact.contractName ++ " deployed at " ++ contractAddress.toHex ++ " in block " ++
    toString receipt.blockNumber ++ " (gas used: " ++ toString receipt.gasUsed ++ ")")
  let outcome := (StepOutcome.passed deployStep).detail "contract" (.string contractAddress.toHex)
    |>.detail "deployer" (.string deployer.toHex)
    |>.detail "admin" (.string admin.toHex)
    |>.detail "txHash" (.string receipt.txHash.toHex)
    |>.detail "blockNumber" (.nat receipt.blockNumber)
    |>.detail "gasUsed" (.nat receipt.gasUsed)
  let outcome := match balance with
    | some balance => outcome.detail "deployerBalanceEth" (.string (formatEther balance))
    | none => outcome
  pure (result, outcome)

/-- Deploys the contract and records the outcome. -/
def deploy (client : Client σ) (artifact : Artifact) (deployer admin : Address) :
    StepM σ DeploymentResult :=
  tryCatch
    (do
      let (result, outcome) ← tryDeploy client artifact deployer admin
      record outcome
      pure result)
    fun error => do
      record ((StepOutcome.failed deployStep error).detail "deployer" (.string deployer.toHex)
        |>.detail "admin" (.string admin.toHex))
      throw error

end NftProbe.Run
