import NftProbe.Proofs.Run.Histories

/-!
# How a run ends, and what its report says

The answers of the gates decide how a run ends, and nothing else does: two traces of a workflow
over the same answers end the same way (`RunTrace.ending_unique`). So a run completes exactly
when its answers are those of a completed trace: enough signers, both chain checks around the
deployment, a creation that went through and, for the test workflow, the check after the
sequence; every other answer, a failed mint or transfer included, leaves the run going.

The report of a run follows: it completed or aborted as its trace says, a fatal outcome stands
only in an aborted report, an aborted report ends with the failure that stopped the run, and the
report succeeds exactly when the run completed with nothing worse than reported.

A run halts on an overflow of the supply it expects: a contract that already reports the
largest supply there is leaves no report at all, even when every gate passes
(`saturatedSupply_halts`). The same node with a contract that reports no supply
(`Client.cooperative`) lets the test run go through every phase to `completed`.
-/

set_option autoImplicit false

namespace NftProbe.Run

open Contract

namespace DeployTrace

variable {expected : Nat} {artifact : Artifact} {deployer : Address}

/-- The stretch asks for at most four milestones. -/
theorem length_le {ms : List Exchange} {result : Except Stop Address}
    (h : DeployTrace expected artifact deployer ms result) : ms.length ≤ 4 := by
  cases h <;> simp [chainReads]

/-- A stretch that verifies the chain asks for exactly four. -/
theorem length_ok {ms : List Exchange} {contract : Address}
    (h : DeployTrace expected artifact deployer ms (.ok contract)) : ms.length = 4 := by
  cases h
  simp [chainReads]

/-- The answers decide how the stretch ends: stretches of different lengths cannot meet, and of
the two that ask for four milestones the last check tells them apart. -/
theorem result_unique {ms ms' : List Exchange} {result result' : Except Stop Address}
    (h : DeployTrace expected artifact deployer ms result)
    (h' : DeployTrace expected artifact deployer ms' result') (hms : ms = ms') :
    result = result' := by
  cases h <;> cases h' <;> simp_all [chainReads, deployCall]

end DeployTrace

/-- A run refused at its signers asked for nothing else, so it got fewer than it needed. -/
private theorem refused_ne {answer : Except ClientError (List Address)} {needed : Nat}
    (hfew : ∀ signers, answer = .ok signers → signers.length < needed)
    {signers : List Address} (henough : needed ≤ signers.length) {more : List Exchange} :
    [Exchange.signers answer] ≠ .signers (.ok signers) :: more := by
  intro h
  simp only [List.cons.injEq, Exchange.signers.injEq] at h
  exact absurd (hfew signers h.1) (Nat.not_lt.mpr henough)

/-- The last check a run makes is read off the end of its trace. -/
private theorem lastCheck_eq {before before' : List Exchange} {contract contract' : Address}
    {snapshot snapshot' : Except ClientError BlockSnapshot}
    {view view' : Except ClientError (List Abi.Token)}
    (h : before ++ chainReads (some contract) snapshot view =
      before' ++ chainReads (some contract') snapshot' view') :
    contract = contract' ∧ snapshot = snapshot' ∧ view = view' := by
  have hlast := (List.append_inj' h (by simp [chainReads])).2
  simp only [chainReads, List.cons.injEq, Exchange.snapshot.injEq, Exchange.read.injEq] at hlast
  exact ⟨hlast.2.1.1, hlast.1, hlast.2.1.2.2⟩

namespace TestTrace

variable {expected : Nat} {demo : DemoMints} {artifact : Artifact}

/-- A test run whose signers were listed, three of them at least, was not refused. -/
private theorem refused_ne_listed {answer : Except ClientError (List Address)}
    (hfew : ∀ signers, answer = .ok signers → signers.length < fullWorkflowSigners)
    {deployer user1 user2 : Address} {rest : List Address} {more : List Exchange} :
    [Exchange.signers answer] ≠ .signers (.ok (deployer :: user1 :: user2 :: rest)) :: more :=
  refused_ne hfew (by simp [fullWorkflowSigners])

/-- A test run stopped in its deployment stretch asked for fewer milestones than one whose
chain was verified. -/
private theorem length_stopped_lt {deployer deployer' contract : Address}
    {ms ms' : List Exchange} {stop : Stop} {x y : Exchange} {user1 user2 : Address}
    {single batch transfer : Except ClientError TxOutcome}
    {snapshot : Except ClientError BlockSnapshot} {view : Except ClientError (List Abi.Token)}
    (hdeploy : DeployTrace expected artifact deployer ms (.error stop))
    (hdeploy' : DeployTrace expected artifact deployer' ms' (.ok contract)) :
    (x :: ms).length < (y :: ms' ++ exerciseSends demo contract deployer' user1 user2 single
      batch transfer ++ chainReads (some contract) snapshot view).length := by
  have hle := hdeploy.length_le
  have hok := hdeploy'.length_ok
  simp [exerciseSends, chainReads]
  omega

/-- The answers decide how a test run ends. -/
theorem ending_unique {ms ms' : List Exchange} {ending ending' : Ending}
    (h : TestTrace expected demo artifact ms ending)
    (h' : TestTrace expected demo artifact ms' ending') (hms : ms = ms') : ending = ending' := by
  cases h with
  | refused hfew =>
    cases h' with
    | refused => rfl
    | stopped | completed | lastRejected =>
      exact absurd (by simpa only [List.cons_append] using hms) (refused_ne_listed hfew)
  | stopped hdeploy =>
    cases h' with
    | refused hfew =>
      exact absurd (by simpa only [List.cons_append] using hms.symm) (refused_ne_listed hfew)
    | stopped hdeploy' =>
      simp only [List.cons.injEq, Exchange.signers.injEq, Except.ok.injEq] at hms
      obtain ⟨⟨rfl, -⟩, rfl⟩ := hms
      simpa using hdeploy.result_unique hdeploy' rfl
    | completed hdeploy' | lastRejected hdeploy' =>
      exact absurd (congrArg List.length hms) (Nat.ne_of_lt (length_stopped_lt hdeploy hdeploy'))
  | completed hdeploy hlast =>
    cases h' with
    | refused hfew =>
      exact absurd (by simpa only [List.cons_append] using hms.symm) (refused_ne_listed hfew)
    | stopped hdeploy' =>
      exact absurd (congrArg List.length hms.symm)
        (Nat.ne_of_lt (length_stopped_lt hdeploy' hdeploy))
    | completed => rfl
    | lastRejected hdeploy' hlast' =>
      obtain ⟨rfl, rfl, rfl⟩ := lastCheck_eq hms
      simp [hlast] at hlast'
  | lastRejected hdeploy hlast =>
    cases h' with
    | refused hfew =>
      exact absurd (by simpa only [List.cons_append] using hms.symm) (refused_ne_listed hfew)
    | stopped hdeploy' =>
      exact absurd (congrArg List.length hms.symm)
        (Nat.ne_of_lt (length_stopped_lt hdeploy' hdeploy))
    | completed hdeploy' hlast' =>
      obtain ⟨rfl, rfl, rfl⟩ := lastCheck_eq hms
      simp [hlast] at hlast'
    | lastRejected => rfl

end TestTrace

namespace DeployRunTrace

variable {expected : Nat} {artifact : Artifact}

/-- A deploy run whose first signer was listed was not refused. -/
private theorem refused_ne_listed {answer : Except ClientError (List Address)}
    (hnone : ∀ signers, answer = .ok signers → signers = [])
    {deployer : Address} {rest : List Address} {more : List Exchange} :
    [Exchange.signers answer] ≠ .signers (.ok (deployer :: rest)) :: more :=
  refused_ne (fun signers h => show signers.length < 1 by simp [hnone signers h]) (by simp)

/-- The answers decide how a deploy run ends. -/
theorem ending_unique {ms ms' : List Exchange} {ending ending' : Ending}
    (h : DeployRunTrace expected artifact ms ending)
    (h' : DeployRunTrace expected artifact ms' ending') (hms : ms = ms') : ending = ending' := by
  cases h with
  | refused hnone =>
    cases h' with
    | refused => rfl
    | stopped | completed => exact absurd hms (refused_ne_listed hnone)
  | stopped hdeploy =>
    cases h' with
    | refused hnone => exact absurd hms.symm (refused_ne_listed hnone)
    | stopped hdeploy' =>
      simp only [List.cons.injEq, Exchange.signers.injEq, Except.ok.injEq] at hms
      obtain ⟨⟨rfl, -⟩, rfl⟩ := hms
      cases hdeploy.result_unique hdeploy' rfl
      rfl
    | completed hdeploy' =>
      simp only [List.cons.injEq, Exchange.signers.injEq, Except.ok.injEq] at hms
      obtain ⟨⟨rfl, -⟩, rfl⟩ := hms
      cases hdeploy.result_unique hdeploy' rfl
  | completed hdeploy =>
    cases h' with
    | refused hnone => exact absurd hms.symm (refused_ne_listed hnone)
    | stopped hdeploy' =>
      simp only [List.cons.injEq, Exchange.signers.injEq, Except.ok.injEq] at hms
      obtain ⟨⟨rfl, -⟩, rfl⟩ := hms
      cases hdeploy.result_unique hdeploy' rfl
    | completed => rfl

end DeployRunTrace

namespace RunTrace

variable {expected : Nat} {demo : DemoMints} {artifact : Artifact} {workflow : Workflow}

/-- The answers decide how a run ends. -/
theorem ending_unique {ms : List Exchange} {ending ending' : Ending}
    (h : RunTrace expected demo artifact workflow ms ending)
    (h' : RunTrace expected demo artifact workflow ms ending') : ending = ending' := by
  cases workflow with
  | test => exact TestTrace.ending_unique h h' rfl
  | deploy => exact DeployRunTrace.ending_unique h h' rfl

/-- A run completed exactly when its answers are those of a completed run. -/
theorem completed_iff {ms : List Exchange} {ending : Ending}
    (h : RunTrace expected demo artifact workflow ms ending) :
    ending = .completed ↔ RunTrace expected demo artifact workflow ms .completed := by
  constructor
  · rintro rfl
    exact h
  · exact h.ending_unique

end RunTrace

namespace Ending

@[simp] theorem phase_eq_completed {ending : Ending} :
    ending.phase = .completed ↔ ending = .completed := by
  cases ending <;> simp [phase]

@[simp] theorem phase_eq_aborted {ending : Ending} :
    ending.phase = .aborted ↔ ending ≠ .completed := by
  cases ending <;> simp [phase]

end Ending

namespace Report

/-- Only reported errors, or none, stand among the outcomes exactly when no outcome is fatal or
fatal to its call. -/
theorem onlyReported_iff {outcomes : List StepOutcome} :
    onlyReported outcomes = true ↔
      ∀ outcome ∈ outcomes, outcome.severity ≠ some .callFatal ∧
        outcome.severity ≠ some .fatal := by
  simp only [onlyReported, List.all_eq_true]
  refine forall₂_congr fun outcome _ => ?_
  rcases outcome.severity with _ | ⟨_ | _ | _⟩ <;> simp

/-- A report succeeds exactly when its run completed and no outcome is fatal or fatal to its
call. -/
theorem success_ofContext (context : Context) (finishedAt : String) :
    (ofContext context finishedAt).success = true ↔
      context.phase = .completed ∧ ∀ outcome ∈ context.outcomes,
        outcome.severity ≠ some .callFatal ∧ outcome.severity ≠ some .fatal := by
  simp only [ofContext, Bool.and_eq_true, beq_iff_eq, onlyReported_iff]

end Report

namespace Orchestrator

variable {σ : Type} (o : Orchestrator σ)

/-- Every run that returns ends as the answers of its gates decide: it completed exactly when
they are those of a completed trace, and aborted otherwise. A run whose chain was verified ran
every step of its workflow whatever they returned; a fatal outcome stands only in an aborted
report, whose last outcome is the failure of the step that stopped the run; and the report
succeeds exactly when the run completed with no outcome fatal or fatal to its call. -/
theorem report_ending_decided_by_gates {workflow : Workflow} {runId startedAt : String}
    {artifact : Artifact} {a b : σ} {context : Context} {log log' : Array LogRecord}
    (hrun : (o.runWorkflow workflow runId startedAt artifact a).run log = .ok ((b, context), log'))
    (finishedAt : String) :
    let report := Report.ofContext context finishedAt
    let traces := RunTrace o.expectations.chainId o.demoMints artifact workflow
    ∃ ms ending, traces ms ending ∧ o.client.Reaches a ms b ∧
      (report.finalState = .completed ↔ traces ms .completed) ∧
      (report.finalState = .aborted ↔ ¬ traces ms .completed) ∧
      (ending.verified = true → Ran workflow.verifiedSteps report.outcomes) ∧
      ((∃ outcome ∈ report.outcomes, outcome.severity = some .fatal) →
        report.finalState = .aborted) ∧
      (report.finalState = .aborted →
        ∃ stop e, ending = .stopped stop ∧ EndsWithFailure stop.step e report.outcomes) ∧
      (report.success = true ↔ report.finalState = .completed ∧
        ∀ outcome ∈ report.outcomes,
          outcome.severity ≠ some .callFatal ∧ outcome.severity ≠ some .fatal) := by
  intro report traces
  obtain ⟨ms, ending, htrace, hreach, hends, hrecorded, hran⟩ := o.run_spec hrun
  have hfinal : report.finalState = ending.phase := hends.phase
  have hcompleted : report.finalState = .completed ↔ traces ms .completed := by
    rw [hfinal, Ending.phase_eq_completed]
    exact htrace.completed_iff
  have haborted : report.finalState = .aborted ↔ ending ≠ .completed := by
    rw [hfinal, Ending.phase_eq_aborted]
  refine ⟨ms, ending, htrace, hreach, hcompleted, ?_, hran, ?_, ?_,
    Report.success_ofContext context finishedAt⟩
  · rw [haborted]
    exact not_congr htrace.completed_iff
  · rintro ⟨outcome, hmem, hfatal⟩
    refine haborted.mpr fun hcomplete => ?_
    subst hcomplete
    exact hrecorded outcome hmem hfatal
  · intro hstopped
    cases ending with
    | completed => exact absurd rfl (haborted.mp hstopped)
    | stopped stop =>
      obtain ⟨e, hlast⟩ := hrecorded
      exact ⟨stop, e, rfl, hlast⟩

end Orchestrator

/-! ### A contract that reports the largest supply -/

/-- The contract the saturated node creates. -/
def saturatedContract : Address := Address.ofNatWrap 4

/-- The latest block of the saturated node, on the expected chain. -/
def saturatedBlock : BlockSnapshot :=
  { chainId := expectedChainId, blockNumber := 1, timestamp := 0, coinbase := Address.zero,
    gasLimit := 0 }

/-- What the saturated contract answers to every read: the largest supply there is. -/
def saturatedAnswer : List Abi.Token :=
  [.uint (Word.ofU64 u64Max)]

/-- The receipt of a transaction that was included and succeeded, with its logs. -/
def includedReceipt (logs : List LogEntry) : Receipt :=
  { txHash := Hash32.zero, blockNumber := 1, gasUsed := 0, status := true,
    contractAddress := none, logs }

/-- The creation of the saturated contract, included and successful. -/
def saturatedDeployment : Deployment :=
  { address := some saturatedContract, outcome := .included (includedReceipt []) }

/-- The mint of token 1 to the second account. -/
def saturatedMint : TransferEvent :=
  { source := Address.zero, target := Address.ofNatWrap 2, tokenId := 1 }

/-- A node on the expected chain that lists three accounts, includes every transaction with the
mint of one token to the second of them, and whose contract answers every read with the largest
supply there is. -/
def Client.saturated : Client Unit where
  chainId := pure expectedChainId
  signers := pure [Address.ofNatWrap 1, Address.ofNatWrap 2, Address.ofNatWrap 3]
  balance _ := throw (.transport "unreachable")
  snapshot := pure saturatedBlock
  deploy _ _ _ := pure saturatedDeployment
  send _ _ _ := pure (.included (includedReceipt [saturatedMint.toLog saturatedContract]))
  read _ _ := pure saturatedAnswer

/-- The orchestrator of the saturated node, with the default expectations and mints. -/
def Orchestrator.saturated : Orchestrator Unit := { client := Client.saturated }

/-- Against the saturated node every gate passes, yet the test run halts: the baseline supply it
reads is the largest there is, and the supply it then expects, one token later, overflows, so
the run leaves no report. The run compares a mint log with the transfer topic, a hash only the
kernel evaluates. -/
theorem saturatedSupply_halts :
    chainAgrees expectedChainId none (.ok saturatedBlock) (.ok saturatedAnswer) = true ∧
      createdBy (.ok saturatedDeployment) = some saturatedContract ∧
      chainAgrees expectedChainId (some saturatedContract) (.ok saturatedBlock)
        (.ok saturatedAnswer) = true ∧
      ((Orchestrator.saturated.runWorkflow .test "saturated" "" ⟨"", [0]⟩ ()).run #[]).map
        (fun _ => ()) = .error .add :=
  ⟨by decide, by decide, by decide, by decide +kernel⟩

/-! ### A node that answers every call -/

/-- The saturated node with a contract that answers every read with zero. -/
def Client.cooperative : Client Unit :=
  { Client.saturated with read := fun _ _ => pure [.uint (Word.ofU64 0)] }

/-- The orchestrator of the cooperative node, with the default expectations and mints. -/
def Orchestrator.cooperative : Orchestrator Unit := { client := Client.cooperative }

namespace Orchestrator

/-- A result seen through `Except.map` is the image of a result. -/
theorem exists_ok_of_map_eq_ok {ε α β : Type} {f : α → β} {x : Except ε α} {b : β}
    (h : x.map f = .ok b) : ∃ a, x = .ok a ∧ f a = b := by
  cases x with
  | error e => cases h
  | ok a => exact ⟨a, rfl, Except.ok.inj h⟩

/-- Against the cooperative node every gate passes, the mints and the transfer are included,
and the test run returns a report that completed. The run compares its mint logs with the
transfer topic, a hash only the kernel evaluates. -/
theorem cooperative_test_run_completes : ∃ context log',
    (cooperative.runWorkflow .test "run" "" ⟨"", [0]⟩ ()).run #[] = .ok (((), context), log') ∧
      context.phase = .completed := by
  have hphase : ((cooperative.runWorkflow .test "run" "" ⟨"", [0]⟩ ()).run #[]).map
      (fun result => result.1.2.phase) = .ok .completed := by
    decide +kernel
  obtain ⟨result, hrun, hcompleted⟩ := exists_ok_of_map_eq_ok hphase
  exact ⟨result.1.2, result.2, hrun, hcompleted⟩

/-- The cooperative node's test run completes, so the answers of its gates are those of a
completed trace, and its report shows every step of the test workflow. -/
theorem cooperative_report_decided : ∃ context log',
    (cooperative.runWorkflow .test "run" "" ⟨"", [0]⟩ ()).run #[] = .ok (((), context), log') ∧
      (Report.ofContext context "").finalState = .completed ∧
      ∃ ms, RunTrace cooperative.expectations.chainId cooperative.demoMints ⟨"", [0]⟩ .test ms
          .completed ∧
        Ran Workflow.test.verifiedSteps (Report.ofContext context "").outcomes := by
  obtain ⟨context, log', hrun, hphase⟩ := cooperative_test_run_completes
  obtain ⟨ms, ending, htrace, -, hcompleted, -, hran, -⟩ :=
    report_ending_decided_by_gates cooperative hrun ""
  have hfinal : (Report.ofContext context "").finalState = .completed := hphase
  have hdone := hcompleted.mp hfinal
  have hending : ending = .completed := htrace.ending_unique hdone
  refine ⟨context, log', hrun, hfinal, ms, hdone, hran ?_⟩
  rw [hending]
  rfl

/-- The cooperative node's test run goes through every phase of the test workflow to
`completed`, a history that reads as a run. -/
theorem cooperative_history_lawful : ∃ context log',
    (cooperative.runWorkflow .test "run" "" ⟨"", [0]⟩ ()).run #[] = .ok (((), context), log') ∧
      (Report.ofContext context "").stateHistory =
        [.idle, .deploying, .chainVerified, .minting, .transferring, .validating, .completed] ∧
      LawfulHistory (Report.ofContext context "").stateHistory .completed := by
  obtain ⟨context, log', hrun, hphase⟩ := cooperative_test_run_completes
  obtain ⟨hmem, hlawful⟩ := report_history_lawful cooperative hrun ""
  have hfinal : (Report.ofContext context "").finalState = .completed := hphase
  rw [hfinal] at hlawful
  have hfull : ∀ history ∈ Workflow.test.histories, LawfulHistory history .completed →
      history = [.idle, .deploying, .chainVerified, .minting, .transferring, .validating,
        .completed] := by
    decide
  exact ⟨context, log', hrun, hfull _ hmem hlawful, hlawful⟩

end Orchestrator

end NftProbe.Run
