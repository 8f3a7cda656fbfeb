import NftProbe.Run.Step
import NftProbe.Run.Expectations
import NftProbe.Contract.Views

/-!
# Metadata validation

Reads the contract's metadata and compares each field with what the run expects: name, symbol,
version, chain name and chain id, and the supply once the baseline is known. Each field is its
own outcome, and a difference is only reported.
-/

set_option autoImplicit false

namespace NftProbe.Run

open StepM Contract

/-- The name of the validation step. -/
def validationStep : String := "validation"

/-- The outcome of comparing one field. -/
def compareField (field expected observed : String) : Logged StepOutcome := do
  let step := validationStep ++ "." ++ field
  if expected = observed then
    return (StepOutcome.passed step).detail "value" (.string observed)
  let error : HarnessError := .validationMismatch field expected observed
  emit .warn error.message
  pure (StepOutcome.failed step error)

variable {σ : Type}

/-- Reads the contract's metadata. -/
def readInfo (client : Client σ) : StepM σ ContractInfo := do
  let contract ← contract
  match ← call (client.read contract getContractInfo) with
  | .ok tokens => fromResult ((ContractInfo.ofTokens tokens).mapError .abi)
  | .error error => throw (.client error)

/-- Validates the contract's metadata and records one outcome per field. -/
def validateMetadata (client : Client σ) (expectations : Expectations) :
    StepM σ ContractInfo := do
  let info ← tryCatch (readInfo client) fun error => do
    emit .warn ("Could not read contract info: " ++ error.message)
    record (StepOutcome.failed validationStep error)
    throw error
  emit .info "Contract info:"
  emit .info ("  Name:         " ++ info.name)
  emit .info ("  Symbol:       " ++ info.symbol)
  emit .info ("  Total supply: " ++ toString info.totalSupply)
  emit .info ("  Version:      " ++ info.version)
  emit .info ("  Chain name:   " ++ info.chainName)
  emit .info ("  Chain id:     " ++ toString info.chainId)
  let checks := [
    ("name", expectations.name, info.name),
    ("symbol", expectations.symbol, info.symbol),
    ("version", expectations.version, info.version),
    ("chainName", expectations.chainName, info.chainName),
    ("chainId", toString expectations.chainId, toString info.chainId)]
  let supplyCheck := match ← checked (← context).expectedSupply with
    | some expected => [("totalSupply", toString expected, toString info.totalSupply)]
    | none => []
  for (field, expected, observed) in checks ++ supplyCheck do
    record (← compareField field expected observed)
  pure info

end NftProbe.Run
