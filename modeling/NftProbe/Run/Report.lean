import NftProbe.Run.Context
import NftProbe.Files
import NftProbe.ErrorChain

/-!
# Run reports

A report is the record of a finished run: its context, frozen, and whether it succeeded. A run
succeeds when it completed and no outcome carries an error that is more than reported. An exit
policy decides whether a report passes: `fatalOnly` asks for success, `strict` also for no
failed outcome at all.

A report is saved as pretty-printed JSON; the directories above the file are created first.
-/

set_option autoImplicit false

namespace NftProbe.Run

/-- When a report counts as passing. -/
inductive ExitPolicy
  | fatalOnly
  | strict
deriving DecidableEq, Repr

namespace ExitPolicy

/-- The kebab-case name of a policy. -/
def name : ExitPolicy → String
  | .fatalOnly => "fatal-only"
  | .strict => "strict"

/-- The name of the policy's constructor. -/
def title : ExitPolicy → String
  | .fatalOnly => "FatalOnly"
  | .strict => "Strict"

/-- The policy with a kebab-case name. -/
def ofName? : String → Option ExitPolicy
  | "fatal-only" => some .fatalOnly
  | "strict" => some .strict
  | _ => none

end ExitPolicy

/-- The record of a finished run. -/
structure Report where
  runId : String
  workflow : Workflow
  startedAt : String
  finishedAt : String
  finalState : Phase
  stateHistory : List Phase
  deployment : Option DeploymentResult
  baselineSupply : Option Nat
  tokens : List TokenRecord
  snapshots : List LabeledSnapshot
  outcomes : List StepOutcome
  success : Bool

namespace Report

/-- Whether no outcome carries an error that stops more than it reports. -/
def onlyReported (outcomes : List StepOutcome) : Bool :=
  outcomes.all fun outcome =>
    match outcome.severity with
    | some severity => severity == .reported
    | none => true

/-- The report of a context, finished at `finishedAt`. -/
def ofContext (context : Context) (finishedAt : String) : Report :=
  { runId := context.runId, workflow := context.workflow, startedAt := context.startedAt,
    finishedAt, finalState := context.phase, stateHistory := context.history,
    deployment := context.deployment, baselineSupply := context.baselineSupply,
    tokens := context.tokenRecords, snapshots := context.snapshots,
    outcomes := context.outcomes,
    success := context.phase == .completed && onlyReported context.outcomes }

/-- Whether the run was aborted. -/
def isAborted (report : Report) : Bool :=
  report.finalState == .aborted

/-- The outcomes that did not succeed. -/
def failures (report : Report) : List StepOutcome :=
  report.outcomes.filter (!·.success)

/-- The number of outcomes whose error has a severity. -/
def countWithSeverity (report : Report) (severity : Severity) : Nat :=
  (report.outcomes.filter (·.severity == some severity)).length

/-- Whether the report passes under a policy. -/
def passes (report : Report) : ExitPolicy → Bool
  | .fatalOnly => report.success
  | .strict => report.success && report.failures.isEmpty

/-- The JSON form of a report. -/
def toJson (report : Report) : Json :=
  .object [
    ("run_id", .string report.runId),
    ("workflow", .string report.workflow.name),
    ("started_at", .string report.startedAt),
    ("finished_at", .string report.finishedAt),
    ("final_state", .string report.finalState.name),
    ("state_history", .array (report.stateHistory.map fun phase => .string phase.name)),
    ("deployment", .optional DeploymentResult.toJson report.deployment),
    ("baseline_supply", .optional Json.nat report.baselineSupply),
    ("tokens", .array (report.tokens.map TokenRecord.toJson)),
    ("snapshots", .array (report.snapshots.map LabeledSnapshot.toJson)),
    ("outcomes", .array (report.outcomes.map StepOutcome.toJson)),
    ("success", .bool report.success)]

/-- The rule framing the summary. -/
def summaryRule : String := "========================================"

/-- Logs a summary of the report: the run, its final state, the contract, the counts of
outcomes, each failure, and the result. -/
def logSummary (report : Report) : Logged Unit := do
  emit .info summaryRule
  emit .info ("Run " ++ report.runId ++ " (" ++ report.workflow.name ++ ")")
  emit .info ("Final state: " ++ report.finalState.name)
  if let some deployment := report.deployment then
    emit .info ("Contract: " ++ deployment.contractAddress.toHex)
  emit .info ("Outcomes: " ++ toString report.outcomes.length ++ " total, " ++
    toString report.failures.length ++ " failed (" ++
    toString (report.countWithSeverity .fatal) ++ " fatal, " ++
    toString (report.countWithSeverity .callFatal) ++ " call-fatal, " ++
    toString (report.countWithSeverity .reported) ++ " reported)")
  for failure in report.failures do
    emit .warn ("  " ++ failure.step ++ ": " ++ failure.message.getD "failed")
  emit .info ("Result: " ++ if report.success then "PASS" else "FAIL")
  emit .info summaryRule

/-- The directory part of a path: every component but the last. -/
def parentPath (path : String) : String :=
  "/".intercalate (FileSystem.components path).dropLast

/-- Saves the report as pretty JSON at `path`, creating the directories above it. -/
def save (report : Report) (fs : FileSystem) (path : String) :
    Logged (Except ErrorChain FileSystem) := do
  let parent := parentPath path
  let prepared : Except ErrorChain FileSystem :=
    if parent.isEmpty then .ok fs
    else (fs.createDirAll parent).mapError fun error =>
      (ErrorChain.root error.message).context "Failed to create report directory"
  match prepared with
  | .error chain => pure (.error chain)
  | .ok fs =>
    match fs.write path report.toJson.pretty with
    | .error error =>
      pure (.error ((ErrorChain.root error.message).context "Failed to create report file"))
    | .ok fs =>
      emit .info ("Run report written to " ++ path)
      pure (.ok fs)

end Report

end NftProbe.Run
