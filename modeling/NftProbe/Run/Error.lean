import NftProbe.Run.Phase
import NftProbe.Client.Error

/-!
# Run errors

A step of a run fails with a `HarnessError`. Each error has a kind, and each kind a severity:
a fatal error aborts the run, a call-fatal one ends the step, and a reported one is only
recorded. Client and ABI failures are call-fatal.
-/

set_option autoImplicit false

namespace NftProbe.Run

open Abi

/-- How much an error stops. Ordered from least to most. -/
inductive Severity
  | reported
  | callFatal
  | fatal
deriving DecidableEq, Repr

/-- The name of a severity. -/
def Severity.name : Severity → String
  | .reported => "reported"
  | .callFatal => "call_fatal"
  | .fatal => "fatal"

/-- The kind of a run error. -/
inductive ErrorKind
  | deploymentFailed
  | wrongChainError
  | argumentMismatch
  | mintFailed
  | transferRejected
  | transferNotReflected
  | supplyInvariantViolation
  | validationMismatch
  | clientFailure
  | invalidState
deriving DecidableEq, Repr

namespace ErrorKind

/-- Every kind, in order. -/
def all : List ErrorKind :=
  [.deploymentFailed, .wrongChainError, .argumentMismatch, .mintFailed, .transferRejected,
    .transferNotReflected, .supplyInvariantViolation, .validationMismatch, .clientFailure,
    .invalidState]

/-- The name of a kind. -/
def name : ErrorKind → String
  | .deploymentFailed => "DeploymentFailed"
  | .wrongChainError => "WrongChainError"
  | .argumentMismatch => "ArgumentMismatch"
  | .mintFailed => "MintFailed"
  | .transferRejected => "TransferRejected"
  | .transferNotReflected => "TransferNotReflected"
  | .supplyInvariantViolation => "SupplyInvariantViolation"
  | .validationMismatch => "ValidationMismatch"
  | .clientFailure => "ClientFailure"
  | .invalidState => "InvalidState"

/-- The kind with a name. -/
def ofName? (text : String) : Option ErrorKind :=
  all.find? (·.name == text)

/-- The severity of a kind. -/
def severity : ErrorKind → Severity
  | .deploymentFailed | .wrongChainError | .invalidState => .fatal
  | .argumentMismatch | .mintFailed | .clientFailure => .callFatal
  | .transferRejected | .transferNotReflected | .supplyInvariantViolation
  | .validationMismatch => .reported

/-- Whether errors of this kind abort the run. -/
def isFatal (kind : ErrorKind) : Bool :=
  kind.severity == .fatal

end ErrorKind

/-- Who reported a chain id. -/
inductive ChainIdSource
  | node
  | contract
deriving DecidableEq, Repr

/-- The name of a chain id source. -/
def ChainIdSource.name : ChainIdSource → String
  | .node => "node"
  | .contract => "contract"

/-- The failures of a run step. -/
inductive HarnessError
  | deploymentFailed (reason : String)
  | wrongChain (expected observed : Nat) (source : ChainIdSource)
  | argumentMismatch (reason : String)
  | mintFailed (reason : String)
  | transferRejected (tokenId : Nat) (reason : String)
  | transferNotReflected (tokenId : Nat) (expected observed : Address)
  | ownerUnreadable (tokenId : Nat) (expected : Address) (reason : String)
  | supplyInvariantViolation (expected observed : Nat)
  | validationMismatch (field expected observed : String)
  | noDeployment
  | invalidTransition (source target : Phase)
  | mutationsHalted (phase : Phase)
  | client (error : ClientError)
  | abi (error : AbiError)
deriving DecidableEq, Repr

namespace HarnessError

/-- The text of an error. -/
def message : HarnessError → String
  | .deploymentFailed reason => "Deployment failed: " ++ reason
  | .wrongChain expected observed source =>
    "Wrong chain: expected chain id " ++ toString expected ++ ", " ++ source.name ++
      " reports " ++ toString observed
  | .argumentMismatch reason => "Argument mismatch: " ++ reason
  | .mintFailed reason => "Mint failed: " ++ reason
  | .transferRejected tokenId reason =>
    "Transfer of token " ++ toString tokenId ++ " rejected: " ++ reason
  | .transferNotReflected tokenId expected observed =>
    "Transfer of token " ++ toString tokenId ++ " not reflected: owner is " ++ observed.toHex ++
      ", expected " ++ expected.toHex
  | .ownerUnreadable tokenId expected reason =>
    "Transfer of token " ++ toString tokenId ++ " not verified: owner of token unreadable (" ++
      reason ++ "), expected " ++ expected.toHex
  | .supplyInvariantViolation expected observed =>
    "Supply invariant violated: totalSupply is " ++ toString observed ++ ", expected " ++
      toString expected
  | .validationMismatch field expected observed =>
    "Validation mismatch on '" ++ field ++ "': expected '" ++ expected ++ "', observed '" ++
      observed ++ "'"
  | .noDeployment => "No contract deployed in this run"
  | .invalidTransition source target =>
    "Invalid run state transition from " ++ source.name ++ " to " ++ target.name
  | .mutationsHalted phase => "Mutating operation refused in state " ++ phase.name
  | .client error => error.message
  | .abi error => error.message

/-- The kind of an error. -/
def kind : HarnessError → ErrorKind
  | .deploymentFailed _ => .deploymentFailed
  | .wrongChain .. => .wrongChainError
  | .argumentMismatch _ => .argumentMismatch
  | .mintFailed _ => .mintFailed
  | .transferRejected .. => .transferRejected
  | .transferNotReflected .. | .ownerUnreadable .. => .transferNotReflected
  | .supplyInvariantViolation .. => .supplyInvariantViolation
  | .validationMismatch .. => .validationMismatch
  | .noDeployment | .invalidTransition .. | .mutationsHalted _ => .invalidState
  | .client _ | .abi _ => .clientFailure

/-- Whether the error aborts the run. -/
def isFatal (error : HarnessError) : Bool :=
  error.kind.isFatal

/-- The name of the error's constructor; client and ABI errors name theirs after it. -/
def variantName : HarnessError → String
  | .deploymentFailed _ => "DeploymentFailed"
  | .wrongChain .. => "WrongChain"
  | .argumentMismatch _ => "ArgumentMismatch"
  | .mintFailed _ => "MintFailed"
  | .transferRejected .. => "TransferRejected"
  | .transferNotReflected .. => "TransferNotReflected"
  | .ownerUnreadable .. => "OwnerUnreadable"
  | .supplyInvariantViolation .. => "SupplyInvariantViolation"
  | .validationMismatch .. => "ValidationMismatch"
  | .noDeployment => "NoDeployment"
  | .invalidTransition .. => "InvalidTransition"
  | .mutationsHalted _ => "MutationsHalted"
  | .client error => "Client::" ++ error.kind
  | .abi error => "Abi::" ++ error.kind

/-- The structural form of an error, as in debug log lines. -/
def debugText : HarnessError → String
  | .deploymentFailed reason => "DeploymentFailed(" ++ Text.quote reason ++ ")"
  | .wrongChain expected observed source =>
    "WrongChain \x7b expected: " ++ toString expected ++ ", observed: " ++ toString observed ++
      ", source_kind: " ++ (match source with | .node => "Node" | .contract => "Contract") ++
      " \x7d"
  | .argumentMismatch reason => "ArgumentMismatch(" ++ Text.quote reason ++ ")"
  | .mintFailed reason => "MintFailed(" ++ Text.quote reason ++ ")"
  | .transferRejected tokenId reason =>
    "TransferRejected \x7b token_id: " ++ toString tokenId ++ ", reason: " ++ Text.quote reason ++
      " \x7d"
  | .transferNotReflected tokenId expected observed =>
    "TransferNotReflected \x7b token_id: " ++ toString tokenId ++ ", expected: " ++
      expected.toHex ++ ", observed: " ++ observed.toHex ++ " \x7d"
  | .ownerUnreadable tokenId expected reason =>
    "OwnerUnreadable \x7b token_id: " ++ toString tokenId ++ ", expected: " ++ expected.toHex ++
      ", reason: " ++ Text.quote reason ++ " \x7d"
  | .supplyInvariantViolation expected observed =>
    "SupplyInvariantViolation \x7b expected: " ++ toString expected ++ ", observed: " ++
      toString observed ++ " \x7d"
  | .validationMismatch field expected observed =>
    "ValidationMismatch \x7b field: " ++ Text.quote field ++ ", expected: " ++
      Text.quote expected ++ ", observed: " ++ Text.quote observed ++ " \x7d"
  | .noDeployment => "NoDeployment"
  | .invalidTransition source target =>
    "InvalidTransition \x7b from: " ++ source.name ++ ", to: " ++ target.name ++ " \x7d"
  | .mutationsHalted phase => "MutationsHalted(" ++ phase.name ++ ")"
  | .client error => "Client(" ++ error.debugText ++ ")"
  | .abi error => "Abi(" ++ error.debugText ++ ")"

end HarnessError

end NftProbe.Run
