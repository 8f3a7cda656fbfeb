import NftProbe.Proofs.Run.Workflow
import NftProbe.Run.Report

/-!
# Phase histories

How a run ends fixes every phase it went through. The histories a workflow can leave are few:
a run that stops at its signers or at its deployment goes straight from `deploying` to
`aborted`, one whose chain check fails before or after the deployment is rejected first, and
one whose chain is verified goes through the workflow's phases to `completed`, or, for the test
workflow, to `aborted` when the last check fails.

Each of them reads as a run (`LawfulHistory`): it ends in the final phase, which is terminal,
every phase follows the one before it as the transition table allows, aborting included, and no
phase occurs twice.
-/

set_option autoImplicit false

namespace NftProbe.Run

open Contract

/-- The phase histories a run of the workflow can leave, one for each way it ends. -/
def Workflow.histories : Workflow → List (List Phase)
  | .test => [
      [.idle, .deploying, .aborted],
      [.idle, .deploying, .chainRejected, .aborted],
      [.idle, .deploying, .chainVerified, .minting, .transferring, .validating, .completed],
      [.idle, .deploying, .chainVerified, .minting, .transferring, .validating, .aborted]]
  | .deploy => [
      [.idle, .deploying, .aborted],
      [.idle, .deploying, .chainRejected, .aborted],
      [.idle, .deploying, .chainVerified, .validating, .completed]]

/-- A history that reads as a run ending in `final`: it ends there, `final` is terminal, every
phase follows the one before it as the transition table allows, and no phase occurs twice. -/
structure LawfulHistory (history : List Phase) (final : Phase) : Prop where
  last : history.getLast? = some final
  terminal : final.isTerminal = true
  allowed : history.IsChain fun before after => before.canTransition after = true
  nodup : history.Nodup

instance (history : List Phase) (final : Phase) : Decidable (LawfulHistory history final) :=
  decidable_of_iff
    (history.getLast? = some final ∧ final.isTerminal = true ∧
      (history.IsChain fun before after => before.canTransition after = true) ∧ history.Nodup)
    ⟨fun ⟨last, terminal, allowed, nodup⟩ => ⟨last, terminal, allowed, nodup⟩,
      fun ⟨last, terminal, allowed, nodup⟩ => ⟨last, terminal, allowed, nodup⟩⟩

namespace Ending

/-- Every ending's history is one of its workflow's, except a deploy run stopping at a check
it never makes. -/
theorem history_mem {workflow : Workflow} {ending : Ending}
    (h : workflow = .deploy → ending ≠ .stopped .postSequenceCheck) :
    ending.history workflow ∈ workflow.histories := by
  revert h
  cases workflow <;> rcases ending with _ | ⟨_ | _ | _ | _ | _⟩ <;> decide

/-- Every ending's history reads as a run ending in the ending's phase; the abort of a run
stopped before its chain was verified, or after the sequence, is one the table allows. -/
theorem lawfulHistory (workflow : Workflow) (ending : Ending) :
    LawfulHistory (ending.history workflow) ending.phase := by
  cases workflow <;> rcases ending with _ | ⟨_ | _ | _ | _ | _⟩ <;> decide

end Ending

namespace Orchestrator

variable {σ : Type} (o : Orchestrator σ)

/-- The report of every run that returns shows one of its workflow's histories, and the history
reads as a run ending in the report's final phase. -/
theorem report_history_lawful {workflow : Workflow} {runId startedAt : String}
    {artifact : Artifact} {a b : σ} {context : Context} {log log' : Array LogRecord}
    (hrun : (o.runWorkflow workflow runId startedAt artifact a).run log = .ok ((b, context), log'))
    (finishedAt : String) :
    (Report.ofContext context finishedAt).stateHistory ∈ workflow.histories ∧
      LawfulHistory (Report.ofContext context finishedAt).stateHistory
        (Report.ofContext context finishedAt).finalState := by
  obtain ⟨ms, ending, htrace, -, hends, -⟩ := o.run_spec hrun
  have hreached : workflow = .deploy → ending ≠ .stopped .postSequenceCheck := by
    rintro rfl
    exact DeployRunTrace.ne_postSequence htrace
  show context.history ∈ workflow.histories ∧ LawfulHistory context.history context.phase
  rw [hends.history, hends.phase]
  exact ⟨Ending.history_mem hreached, Ending.lawfulHistory workflow ending⟩

end Orchestrator

end NftProbe.Run
