import NftProbe.Run.Step
import NftProbe.Run.Expectations
import NftProbe.Contract.Views

/-!
# The chain check

Reads the latest block and, once the contract is deployed, the chain the contract observes,
and checks both against the expected chain id. Every check records a labelled snapshot; after
the first, the outcome also says how many blocks and seconds passed since the last one. With
a gas floor expected, the block gas limit is checked too, and a low limit is only reported.
-/

set_option autoImplicit false

namespace NftProbe.Run

open StepM Contract

/-- The label of the check before deployment. -/
def preDeploy : String := "pre_deploy"

/-- The label of the check after deployment. -/
def postDeploy : String := "post_deploy"

/-- The label of the check after the whole sequence. -/
def postSequence : String := "post_sequence"

/-- The name of the check with a label. -/
def chainCheckStep (label : String) : String :=
  "l3_check." ++ label

/-- Checks the node's and the contract's chain ids; records the contract's view in the
outcome. -/
def verifyChain (snapshot : BlockSnapshot) (view : Option (Except HarnessError L3View))
    (expected : Nat) (outcome : StepOutcome) : Logged (StepOutcome × Option HarnessError) := do
  if snapshot.chainId ≠ expected then
    emit .warn ("Node reports chain id " ++ toString snapshot.chainId ++ ", expected " ++
      toString expected)
    return (outcome, some (.wrongChain expected snapshot.chainId .node))
  match view with
  | some (.ok view) =>
    let outcome := (outcome.detail "contractChainId" (.nat view.chainId)).detail
      "contractBlockNumber" (.nat view.blockNumber)
    if view.chainId ≠ expected then
      emit .warn ("Contract observes chain id " ++ toString view.chainId ++ ", node reports " ++
        toString snapshot.chainId)
      return (outcome, some (.wrongChain expected view.chainId .contract))
    pure (outcome, none)
  | some (.error error) =>
    emit .warn ("Could not read validateL3Chain(): " ++ error.message)
    pure (outcome.detail "contractView" (.string ("unavailable: " ++ error.message)), none)
  | none => pure (outcome, none)

/-- The outcome of the gas floor check. -/
def checkGasFloor (step : String) (snapshot : BlockSnapshot) (minimum : Nat) :
    Logged StepOutcome := do
  let step := step ++ ".gas_limit"
  if minimum ≤ snapshot.gasLimit then
    return (StepOutcome.passed step).detail "gasLimit" (.nat snapshot.gasLimit)
      |>.detail "minimum" (.nat minimum)
  let error : HarnessError :=
    .validationMismatch "gasLimit" (">= " ++ toString minimum) (toString snapshot.gasLimit)
  emit .warn error.message
  pure (StepOutcome.failed step error)

/-- The outcome of a failed check: the error's details, then the check's own. -/
def mergeDetails (failed outcome : StepOutcome) : StepOutcome :=
  outcome.details.foldl
    (fun failed (key, value) =>
      if failed.details.contains key then failed else failed.detail key value)
    failed

variable {σ : Type}

/-- Reads the latest block and, when a contract is given, its view of the chain. -/
def readViews (client : Client σ) (contract : Option Address) :
    StepM σ (Except HarnessError BlockSnapshot × Option (Except HarnessError L3View)) := do
  match contract with
  | some contract =>
    let snapshot ← call client.snapshot
    let view ← call (client.read contract validateL3Chain)
    let view := match view with
      | .ok tokens => (L3View.ofTokens tokens).mapError .abi
      | .error error => .error (.client error)
    pure (snapshot.mapError .client, some view)
  | none =>
    let snapshot ← call client.snapshot
    pure (snapshot.mapError .client, none)

/-- Checks the chain and records the outcome under `label`. -/
def checkL3 (client : Client σ) (expectations : Expectations) (label : String) :
    StepM σ BlockSnapshot := do
  let step := chainCheckStep label
  let contract := (← context).deployment.map (·.contractAddress)
  let (snapshot, view) ← readViews client contract
  let snapshot ← match snapshot with
    | .ok snapshot => pure snapshot
    | .error error => do
      record (StepOutcome.failed step error)
      throw error
  let outcome := (StepOutcome.passed step).detail "chainId" (.nat snapshot.chainId)
    |>.detail "blockNumber" (.nat snapshot.blockNumber)
    |>.detail "timestamp" (.nat snapshot.timestamp)
    |>.detail "coinbase" (.string snapshot.coinbase.toHex)
    |>.detail "gasLimit" (.nat snapshot.gasLimit)
  let outcome ← match (← context).lastSnapshot with
    | some previous => do
      let blocks := snapshot.blockNumber - previous.snapshot.blockNumber
      let seconds := snapshot.timestamp - previous.snapshot.timestamp
      emit .info (toString blocks ++ " blocks in " ++ toString seconds ++ "s since " ++
        previous.label)
      pure ((outcome.detail "since" (.string previous.label)).detail "blocksElapsed" (.nat blocks)
        |>.detail "secondsElapsed" (.nat seconds))
    | none => pure outcome
  modifyContext (·.addSnapshot label snapshot)
  let (outcome, verdict) ← verifyChain snapshot view expectations.chainId outcome
  match verdict with
  | some error =>
    record (mergeDetails (StepOutcome.failed step error) outcome)
    throw error
  | none =>
    emit .info ("L3 chain verified (" ++ label ++ "): chain id " ++ toString snapshot.chainId ++
      ", block " ++ toString snapshot.blockNumber ++ ", gas limit " ++
      toString snapshot.gasLimit)
    record outcome
    if let some minimum := expectations.minGasLimit then
      record (← checkGasFloor step snapshot minimum)
    pure snapshot

end NftProbe.Run
