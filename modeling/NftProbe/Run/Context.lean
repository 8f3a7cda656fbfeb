import NftProbe.Run.Outcome
import NftProbe.Chain.Block
import NftProbe.Log

/-!
# The run context

One context is created per run and passed through every step. It holds the run's phase and
the phases it went through, the deployed contract, the tokens minted in the run (by id, in
mint order), the supply before minting, labelled block snapshots, and the outcome of every
step.

The supply the contract should report is the baseline plus the number of tokens minted, once
the baseline is known; the sum is checked.
-/

set_option autoImplicit false

namespace NftProbe.Run

/-- The contract deployed in a run. It is set once and never changed. -/
structure DeploymentResult where
  contractAddress : Address
  deployerAddress : Address
  adminAddress : Address
  txHash : Hash32
  blockNumber : Nat
  gasUsed : Nat
deriving DecidableEq, Repr

/-- The JSON form of a deployment. -/
def DeploymentResult.toJson (result : DeploymentResult) : Json :=
  .object [
    ("contract_address", .string result.contractAddress.toHex),
    ("deployer_address", .string result.deployerAddress.toHex),
    ("admin_address", .string result.adminAddress.toHex),
    ("tx_hash", .string result.txHash.toHex),
    ("block_number", .nat result.blockNumber),
    ("gas_used", .nat result.gasUsed)]

/-- A token minted in the run, with its expected owner. -/
structure TokenRecord where
  tokenId : Nat
  owner : Address
  uri : String
deriving DecidableEq, Repr

/-- The JSON form of a token record. -/
def TokenRecord.toJson (record : TokenRecord) : Json :=
  .object [
    ("token_id", .nat record.tokenId),
    ("owner", .string record.owner.toHex),
    ("uri", .string record.uri)]

/-- A block snapshot with the point of the run it was taken at. -/
structure LabeledSnapshot where
  label : String
  snapshot : BlockSnapshot
deriving DecidableEq, Repr

/-- The JSON form of a labelled snapshot. -/
def LabeledSnapshot.toJson (labeled : LabeledSnapshot) : Json :=
  .object [("label", .string labeled.label), ("snapshot", labeled.snapshot.toJson)]

/-- The state of one run. -/
structure Context where
  runId : String
  workflow : Workflow
  /-- When the run started, as the clock reported it. -/
  startedAt : String
  phase : Phase := .idle
  /-- Every phase the run entered, the first one included. -/
  history : List Phase := [.idle]
  deployment : Option DeploymentResult := none
  tokens : Table Nat TokenRecord := []
  baselineSupply : Option Nat := none
  snapshots : List LabeledSnapshot := []
  outcomes : List StepOutcome := []

namespace Context

/-- A fresh run in its first phase. -/
def create (runId startedAt : String) (workflow : Workflow) : Context :=
  { runId, startedAt, workflow }

/-- The context in phase `next`, when the run may move there. -/
def transition (context : Context) (next : Phase) : Except HarnessError Context :=
  if context.phase.canTransition next then
    .ok { context with phase := next, history := context.history ++ [next] }
  else .error (.invalidTransition context.phase next)

/-- The log line of a phase change. -/
def transitionLine (context : Context) (next : Phase) : String :=
  "Run " ++ context.runId ++ ": " ++ context.phase.name ++ " -> " ++ next.name

/-- The context aborted; a run that has ended stays as it is. -/
def abort (context : Context) : Context :=
  if context.phase.isTerminal then context
  else { context with phase := .aborted, history := context.history ++ [.aborted] }

/-- The log line of an abort. -/
def abortLine (context : Context) : String :=
  "Run " ++ context.runId ++ " aborted in state " ++ context.phase.name

/-- Succeeds only in a phase that may change the chain. -/
def ensureMutable (context : Context) : Except HarnessError Unit :=
  if context.phase.allowsMutations then .ok () else .error (.mutationsHalted context.phase)

/-- The context with one more outcome. -/
def record (context : Context) (outcome : StepOutcome) : Context :=
  { context with outcomes := context.outcomes ++ [outcome] }

/-- The context with its deployment set; a run deploys at most once. -/
def setDeployment (context : Context) (result : DeploymentResult) : Except HarnessError Context :=
  match context.deployment with
  | some _ => .error (.deploymentFailed "a contract was already deployed in this run")
  | none => .ok { context with deployment := some result }

/-- The deployed contract. -/
def contract (context : Context) : Except HarnessError Address :=
  match context.deployment with
  | some result => .ok result.contractAddress
  | none => .error .noDeployment

/-- The context with a token recorded; a token recorded before keeps its place. -/
def addToken (context : Context) (record : TokenRecord) : Context :=
  { context with tokens := context.tokens.insert record.tokenId record }

/-- The record of a token. -/
def token? (context : Context) (tokenId : Nat) : Option TokenRecord :=
  context.tokens.get? tokenId

/-- The recorded tokens, in the order they were first recorded. -/
def tokenRecords (context : Context) : List TokenRecord :=
  context.tokens.values

/-- The number of recorded tokens. -/
def tokenCount (context : Context) : Nat :=
  context.tokens.length

/-- The context with a recorded token's owner changed; unknown tokens are ignored. -/
def setOwner (context : Context) (tokenId : Nat) (owner : Address) : Context :=
  { context with
    tokens := context.tokens.map fun entry =>
      if entry.1 == tokenId then (entry.1, { entry.2 with owner }) else entry }

/-- The context with the supply before minting set. -/
def setBaselineSupply (context : Context) (supply : Nat) : Context :=
  { context with baselineSupply := some supply }

/-- The supply the contract should report, once the baseline is known. -/
def expectedSupply (context : Context) : Except Overflow (Option Nat) :=
  match context.baselineSupply with
  | some baseline => (U64.checkedAdd baseline context.tokenCount).map some
  | none => .ok none

/-- The context with one more snapshot. -/
def addSnapshot (context : Context) (label : String) (snapshot : BlockSnapshot) : Context :=
  { context with snapshots := context.snapshots ++ [{ label, snapshot }] }

/-- The last snapshot taken. -/
def lastSnapshot (context : Context) : Option LabeledSnapshot :=
  context.snapshots.getLast?

end Context

end NftProbe.Run
