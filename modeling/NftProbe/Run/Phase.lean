/-!
# Run phases

A run moves through a fixed set of phases. It starts `idle`, deploys, passes or fails the
chain gate, and then either mints, transfers and validates, or validates right away; it ends
`completed` or `aborted`. `canTransition` is the whole transition relation: a phase change
outside it is refused. Only the deploying, minting and transferring phases may change the
chain.
-/

set_option autoImplicit false

namespace NftProbe.Run

/-- The phase of a run. -/
inductive Phase
  | idle
  | deploying
  | chainVerified
  | chainRejected
  | minting
  | transferring
  | validating
  | completed
  | aborted
deriving DecidableEq, Repr

namespace Phase

/-- Every phase, in order. -/
def all : List Phase :=
  [.idle, .deploying, .chainVerified, .chainRejected, .minting, .transferring, .validating,
    .completed, .aborted]

/-- The name of a phase. -/
def name : Phase → String
  | .idle => "Idle"
  | .deploying => "Deploying"
  | .chainVerified => "ChainVerified"
  | .chainRejected => "ChainRejected"
  | .minting => "Minting"
  | .transferring => "Transferring"
  | .validating => "Validating"
  | .completed => "Completed"
  | .aborted => "Aborted"

/-- The phase with a name. -/
def ofName? (text : String) : Option Phase :=
  all.find? (·.name == text)

/-- Whether a run may move from one phase to the next. -/
def canTransition : Phase → Phase → Bool
  | .idle, .deploying => true
  | .deploying, .chainVerified => true
  | .deploying, .chainRejected => true
  | .deploying, .aborted => true
  | .chainRejected, .aborted => true
  | .chainVerified, .minting => true
  | .chainVerified, .validating => true
  | .minting, .transferring => true
  | .minting, .aborted => true
  | .transferring, .validating => true
  | .transferring, .aborted => true
  | .validating, .completed => true
  | .validating, .aborted => true
  | _, _ => false

/-- Whether the run has ended. -/
def isTerminal : Phase → Bool
  | .completed | .aborted => true
  | _ => false

/-- Whether the chain may be changed in this phase. -/
def allowsMutations : Phase → Bool
  | .deploying | .minting | .transferring => true
  | _ => false

end Phase

/-- What a run does: deploy only, or deploy and exercise the contract. -/
inductive Workflow
  | deploy
  | test
deriving DecidableEq, Repr

namespace Workflow

/-- The name of a workflow. -/
def name : Workflow → String
  | .deploy => "deploy"
  | .test => "test"

/-- The workflow with a name. -/
def ofName? : String → Option Workflow
  | "deploy" => some .deploy
  | "test" => some .test
  | _ => none

end Workflow

end NftProbe.Run
