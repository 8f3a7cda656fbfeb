import NftProbe.Run.Context
import NftProbe.Client.Interface

/-!
# Steps

A step runs against a client and the run context. `StepM` gives it both, the log, and two
ways to stop: a `HarnessError`, which the caller may tolerate, and an overflow, which halts
the program. Client failures come back as values, so each step decides what they mean.
-/

set_option autoImplicit false

namespace NftProbe.Run

/-- A client's state and the run context. -/
structure Session (σ : Type) where
  client : σ
  context : Context

/-- A step of a run over a client with state `σ`. -/
abbrev StepM (σ : Type) := ExceptT HarnessError (StateT (Session σ) Logged)

namespace StepM

variable {σ : Type}

/-- Runs a client operation; its failure is returned, not raised. -/
def call {α : Type} (operation : ClientM σ α) : StepM σ (Except ClientError α) :=
  ExceptT.lift (operation.within Session.client fun session client => { session with client }).run

/-- The run context. -/
def context : StepM σ Context := do
  pure (← getThe (Session σ)).context

/-- Changes the run context. -/
def modifyContext (f : Context → Context) : StepM σ Unit :=
  modifyThe (Session σ) fun session => { session with context := f session.context }

/-- Raises the error of a failed result. -/
def fromResult {α : Type} (result : Except HarnessError α) : StepM σ α :=
  match result with
  | .ok value => pure value
  | .error error => throw error

/-- Records an outcome. -/
def record (outcome : StepOutcome) : StepM σ Unit :=
  modifyContext (·.record outcome)

/-- Moves the run to the next phase, when it may. -/
def transition (next : Phase) : StepM σ Unit := do
  let context ← context
  let moved ← fromResult (context.transition next)
  emit .debug (context.transitionLine next)
  modifyContext fun _ => moved

/-- Aborts the run, unless it has ended. -/
def abort : StepM σ Unit := do
  let context ← context
  if !context.phase.isTerminal then
    emit .error context.abortLine
  modifyContext Context.abort

/-- Fails unless the run may change the chain. -/
def ensureMutable : StepM σ Unit := do
  fromResult (← context).ensureMutable

/-- The deployed contract. -/
def contract : StepM σ Address := do
  fromResult (← context).contract

/-- Runs `step` and returns its value, or `none` when it failed with an error that is not
fatal. -/
def tolerate {α : Type} (step : StepM σ α) : StepM σ (Option α) :=
  tryCatch (some <$> step) fun error => if error.isFatal then throw error else pure none

end StepM

/-- The receipt of a transaction that was included and did not revert, or why not. -/
def successfulReceipt (outcome : TxOutcome) : Except String Receipt :=
  if !outcome.confirmed then
    .error ("transaction " ++ outcome.txHash.toHex ++ " not included within the inclusion bound")
  else
    match outcome.receipt with
    | some receipt =>
      if receipt.status then .ok receipt
      else
        .error ("transaction " ++ receipt.txHash.toHex ++ " reverted in block " ++
          toString receipt.blockNumber)
    | none => .error ("no receipt for transaction " ++ outcome.txHash.toHex)

end NftProbe.Run
