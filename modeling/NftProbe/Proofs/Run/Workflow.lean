import NftProbe.Proofs.Run.Phases

/-!
# Whole runs

A run of a workflow enters `deploying`, asks for its signers, and then goes through the
deployment stretch and, for the test workflow, the three phases after it; a failure the
workflow does not tolerate stops it, and the run aborts. What decides how a run ends is only
the answers of the gates: the signers, the chain checks and the creation. The traces
`TestTrace` and `DeployRunTrace` say, one constructor per way a run ends, which milestones the
run asked the chain for and what their answers were; `Ending` is how it ended.

The run specs (`testRun_spec`, `deployRun_spec`) hold of every client and every run that
returns: the milestones the client answered form the trace of the ending, the context the run
returns went through the phases of that ending (`Context.EndsAs`), a completed run recorded
nothing fatal, a stopped one recorded the failure of the step that stopped it last, and a run
whose chain was verified recorded the steps of its workflow in order.
-/

set_option autoImplicit false

namespace NftProbe.Run

open StepM Contract

/-- How a run ended: completed, or stopped by a failure. -/
inductive Ending
  | completed
  | stopped (stop : Stop)
deriving DecidableEq, Repr

namespace Ending

/-- The phase a run that ended so is left in. -/
def phase : Ending → Phase
  | .completed => .completed
  | .stopped _ => .aborted

/-- The phases the steps of a workflow entered, after `idle`, in a run that ended so; a stopped
run is aborted after them. -/
def entered : Workflow → Ending → List Phase
  | .test, .completed =>
    [.deploying, .chainVerified, .minting, .transferring, .validating, .completed]
  | .deploy, .completed => [.deploying, .chainVerified, .validating, .completed]
  | _, .stopped stop => .deploying :: stop.entered

/-- Every phase a run of the workflow that ended so went through, in order. -/
def history (workflow : Workflow) : Ending → List Phase
  | .completed => .idle :: entered workflow .completed
  | .stopped stop => .idle :: entered workflow (.stopped stop) ++ [.aborted]

/-- What the steps of a run that ended so returned and recorded: nothing fatal when it completed;
the failure of the step that stopped it, last, when it stopped. -/
def Concludes (ending : Ending) (r : Except HarnessError Unit) (recorded : List StepOutcome) :
    Prop :=
  match ending with
  | .completed => r = .ok () ∧ Harmless recorded
  | .stopped stop => ∃ e, r = .error e ∧ EndsWithFailure stop.step e recorded

/-- What a run that ended so recorded: nothing fatal when it completed; the failure of the step
that stopped it, last, when it stopped. -/
def Recorded (ending : Ending) (outcomes : List StepOutcome) : Prop :=
  match ending with
  | .completed => Harmless outcomes
  | .stopped stop => ∃ e, EndsWithFailure stop.step e outcomes

/-- Whether a run that ended so had its chain verified: it completed, or the check after the
sequence rejected the chain. -/
def verified : Ending → Bool
  | .completed | .stopped .postSequenceCheck => true
  | .stopped _ => false

theorem verified_stopped {stop : Stop} :
    (stopped stop).verified = true ↔ stop = .postSequenceCheck := by
  cases stop <;> simp [verified]

theorem Concludes.recorded {ending : Ending} {r : Except HarnessError Unit}
    {recorded : List StepOutcome} (h : ending.Concludes r recorded) : ending.Recorded recorded := by
  cases ending with
  | completed => exact h.2
  | stopped stop =>
    obtain ⟨e, -, hlast⟩ := h
    exact ⟨e, hlast⟩

end Ending

/-- The context a run of `workflow` that ended so is left with: the phases it went through, its
phase, and the outcomes it recorded. -/
structure Context.EndsAs (context : Context) (workflow : Workflow) (ending : Ending)
    (recorded : List StepOutcome) : Prop where
  history : context.history = ending.history workflow
  phase : context.phase = ending.phase
  outcomes : context.outcomes = recorded

/-- The steps of a workflow enter phases from a fresh context and end so; the run returns their
context, aborted when they failed. -/
theorem endsAs_of_concludes {workflow : Workflow} {runId startedAt : String} {ending : Ending}
    {r : Except HarnessError Unit} {recorded : List StepOutcome} {context : Context}
    (hmoves :
      ({ Context.create runId startedAt workflow with deployment := context.deployment }).Moves
        context (ending.entered workflow) recorded)
    (hconcludes : ending.Concludes r recorded) :
    (match r with
      | .ok _ => context
      | .error _ => context.abort).EndsAs workflow ending recorded := by
  cases ending with
  | completed =>
    obtain ⟨rfl, -⟩ := hconcludes
    refine ⟨?_, ?_, ?_⟩
    · rw [hmoves.history]
      cases workflow <;> rfl
    · rw [hmoves.phase]
      cases workflow <;> rfl
    · rw [hmoves.outcomes]
      rfl
  | stopped stop =>
    obtain ⟨e, rfl, -⟩ := hconcludes
    have hlive : context.phase.isTerminal = false := by
      rw [hmoves.phase]
      cases workflow <;> cases stop <;> rfl
    have habort := hmoves.trans (Context.moves_abort hlive)
    refine ⟨?_, ?_, ?_⟩
    · rw [habort.history]
      cases workflow <;> rfl
    · rw [habort.phase]
      cases workflow <;> cases stop <;> rfl
    · rw [habort.outcomes]
      simp [Context.create]


/-- The steps whose outcomes a run records, in order, once its chain is verified. -/
def deploySteps : List String :=
  [chainCheckStep preDeploy, deployStep, chainCheckStep postDeploy]

/-- The steps whose outcomes a test run records, in order, once its chain is verified after the
minting and the transfer. -/
def testSteps : List String :=
  deploySteps ++ [baselineStep, mintOneStep, mintBatchStep, supplyCheckStep, transferStep,
    auditStep, chainCheckStep postSequence]

/-- The tokens a test run has recorded when it transfers: those its two mints report. -/
def mintedTokens (demo : DemoMints) (contract deployer user1 user2 : Address)
    (single batch : Except ClientError TxOutcome) : Table Nat TokenRecord :=
  afterBatchMint (afterSingleMint [] demo.singleUri contract user1 single)
    [user1, user2, deployer] demo.batchUris contract batch

/-- The transactions a test run sends after its deployment: the single mint, the batch when its
lists pass, and the transfer of the single token from its recorded owner to the second user when
the single mint reported one. -/
def exerciseSends (demo : DemoMints) (contract deployer user1 user2 : Address)
    (single batch transfer : Except ClientError TxOutcome) : List Exchange :=
  (.send deployer contract (safeMint user1 demo.singleUri) single ::
    batchSends deployer contract [user1, user2, deployer] demo.batchUris batch) ++
  singleTransferSends (mintedTokens demo contract deployer user1 user2 single batch) contract
    (singleId single contract user1) user1 user2 transfer

/-- What a test run asks the chain, and how it ends, by the answers it gets. The signers come
first; with fewer than three the run stops. The deployer is the first signer, and the users the
next two. -/
inductive TestTrace (expected : Nat) (demo : DemoMints) (artifact : Artifact) :
    List Exchange → Ending → Prop
  | refused {answer : Except ClientError (List Address)}
      (hfew : ∀ signers, answer = .ok signers → signers.length < fullWorkflowSigners) :
      TestTrace expected demo artifact [.signers answer] (.stopped .signers)
  | stopped {deployer user1 user2 : Address} {rest : List Address} {ms : List Exchange}
      {stop : Stop} (hdeploy : DeployTrace expected artifact deployer ms (.error stop)) :
      TestTrace expected demo artifact (.signers (.ok (deployer :: user1 :: user2 :: rest)) :: ms)
        (.stopped stop)
  | completed {deployer user1 user2 contract : Address} {rest : List Address}
      {ms : List Exchange} {single batch transfer : Except ClientError TxOutcome}
      {snapshot : Except ClientError BlockSnapshot} {view : Except ClientError (List Abi.Token)}
      (hdeploy : DeployTrace expected artifact deployer ms (.ok contract))
      (hlast : chainAgrees expected (some contract) snapshot view = true) :
      TestTrace expected demo artifact
        (.signers (.ok (deployer :: user1 :: user2 :: rest)) :: ms ++
          exerciseSends demo contract deployer user1 user2 single batch transfer ++
          chainReads (some contract) snapshot view)
        .completed
  | lastRejected {deployer user1 user2 contract : Address} {rest : List Address}
      {ms : List Exchange} {single batch transfer : Except ClientError TxOutcome}
      {snapshot : Except ClientError BlockSnapshot} {view : Except ClientError (List Abi.Token)}
      (hdeploy : DeployTrace expected artifact deployer ms (.ok contract))
      (hlast : chainAgrees expected (some contract) snapshot view = false) :
      TestTrace expected demo artifact
        (.signers (.ok (deployer :: user1 :: user2 :: rest)) :: ms ++
          exerciseSends demo contract deployer user1 user2 single batch transfer ++
          chainReads (some contract) snapshot view)
        (.stopped .postSequenceCheck)

/-- What a deploy run asks the chain, and how it ends, by the answers it gets. The signers come
first, and the deployer is the first of them; with none the run stops. -/
inductive DeployRunTrace (expected : Nat) (artifact : Artifact) : List Exchange → Ending → Prop
  | refused {answer : Except ClientError (List Address)}
      (hnone : ∀ signers, answer = .ok signers → signers = []) :
      DeployRunTrace expected artifact [.signers answer] (.stopped .signers)
  | stopped {deployer : Address} {rest : List Address} {ms : List Exchange} {stop : Stop}
      (hdeploy : DeployTrace expected artifact deployer ms (.error stop)) :
      DeployRunTrace expected artifact (.signers (.ok (deployer :: rest)) :: ms) (.stopped stop)
  | completed {deployer contract : Address} {rest : List Address} {ms : List Exchange}
      (hdeploy : DeployTrace expected artifact deployer ms (.ok contract)) :
      DeployRunTrace expected artifact (.signers (.ok (deployer :: rest)) :: ms) .completed

/-- A deployment stretch stops only at one of its own checks or at the creation. -/
theorem DeployTrace.stop_ne_postSequence {expected : Nat} {artifact : Artifact}
    {deployer : Address} {ms : List Exchange} {stop : Stop}
    (h : DeployTrace expected artifact deployer ms (.error stop)) : stop ≠ .postSequenceCheck := by
  cases h <;> simp

/-- A deploy run never reaches the check after the sequence. -/
theorem DeployRunTrace.ne_postSequence {expected : Nat} {artifact : Artifact}
    {ms : List Exchange} {ending : Ending} (h : DeployRunTrace expected artifact ms ending) :
    ending ≠ .stopped .postSequenceCheck := by
  cases h with
  | refused => simp
  | stopped hdeploy => simpa using hdeploy.stop_ne_postSequence
  | completed => simp

theorem EndsWithFailure.ran {name : String} {e : HarnessError} {recorded : List StepOutcome}
    (h : EndsWithFailure name e recorded) : Ran [name] recorded := by
  obtain ⟨o, hlast, hstep, -⟩ := h
  exact ran_singleton.2 (List.mem_map.2 ⟨o, List.mem_of_getLast? hlast, hstep⟩)

/-- What a run of the workflow asks the chain, and how it ends, by the answers it gets. -/
def RunTrace (expected : Nat) (demo : DemoMints) (artifact : Artifact) :
    Workflow → List Exchange → Ending → Prop
  | .test => TestTrace expected demo artifact
  | .deploy => DeployRunTrace expected artifact

/-- The steps a run of the workflow records, in order, once its chain is verified. -/
def Workflow.verifiedSteps : Workflow → List String
  | .test => testSteps
  | .deploy => deploySteps

namespace Orchestrator

variable {σ : Type} (o : Orchestrator σ)

/-- A run returns what its workflow's steps leave, aborted when they failed. -/
theorem runWorkflow_spec {workflow : Workflow} {runId startedAt : String} {artifact : Artifact}
    {a b : σ} {context : Context} {log log' : Array LogRecord}
    {Q : Except HarnessError Unit → Session σ → Prop}
    (hrun : (o.runWorkflow workflow runId startedAt artifact a).run log = .ok ((b, context), log'))
    (hsteps : Ensures (match workflow with
        | .deploy => o.executeDeploy artifact
        | .test => o.executeFull artifact) Q ⟨a, Context.create runId startedAt workflow⟩) :
    ∃ r left, Q r ⟨b, left⟩ ∧ context = match r with
      | .ok _ => left
      | .error _ => left.abort := by
  unfold runWorkflow at hrun
  dsimp only at hrun
  rw [emit_bind_run, StateT.run_bind] at hrun
  obtain ⟨⟨⟨r, s'⟩, log₂⟩, hexec, hreturn⟩ := except_bind_eq_ok hrun
  cases hreturn
  refine (?_ : Ensures _ (fun _ s' => ∃ r left, Q r ⟨s'.client, left⟩ ∧ s'.context = match r with
    | .ok _ => left
    | .error _ => left.abort) _) hexec
  refine ensures_tryCatch_of hsteps fun r s' hQ => ?_
  cases r with
  | ok u => exact ⟨.ok u, s'.context, hQ, rfl⟩
  | error e =>
    rw [handle_error]
    refine ensures_bind (ensures_emit ?_)
    rw [continue_ok]
    exact ensures_abort ⟨.error e, s'.context, hQ, rfl⟩

theorem executeFull_spec (artifact : Artifact) (s : Session σ) (hidle : s.context.phase = .idle)
    (hfresh : s.context.deployment = none) (hempty : s.context.tokens = []) :
    Ensures (o.executeFull artifact) (fun r s' => ∃ ms ending recorded,
      TestTrace o.expectations.chainId o.demoMints artifact ms ending ∧
      o.client.Reaches s.client ms s'.client ∧
      ({ s.context with deployment := s'.context.deployment }).Moves s'.context
        (ending.entered .test) recorded ∧
      ending.Concludes r recorded ∧
      (ending.verified = true → Ran testSteps recorded)) s := by
  unfold executeFull
  refine Ensures.bind (o.start_spec fullWorkflowSigners s hidle) ?_
  rintro r ⟨c₁, ctx₁⟩ ⟨answer, hreach₁, htokens₁, hr⟩
  dsimp only at hreach₁ htokens₁
  cases r with
  | error e =>
    obtain ⟨hfew, hmoves₁⟩ := hr
    rw [continue_error]
    refine ⟨_, .stopped .signers, [.failed deployStep e], .refused hfew, hreach₁, ?_, ⟨e, rfl, ?_⟩,
      ?_⟩
    · rw [hmoves₁.deployment]
      exact hmoves₁
    · exact ⟨_, rfl, by simp [Stop.step], by simp, by simp⟩
    · exact fun h => absurd (Ending.verified_stopped.mp h) (by simp)
  | ok signers =>
    obtain ⟨rfl, henough, hmoves₁⟩ := hr
    match signers, henough with
    | [], h | [_], h | [_, _], h => simp [fullWorkflowSigners] at h
    | deployer :: user1 :: user2 :: rest, _ =>
    rw [continue_ok]
    refine ensures_bind (ensures_pure ?_)
    rw [continue_ok]
    refine ensures_bind (ensures_pure ?_)
    rw [continue_ok]
    refine ensures_bind (ensures_pure ?_)
    rw [continue_ok]
    refine ensures_bind (ensures_emit ?_)
    rw [continue_ok]
    have hphase₁ : ctx₁.phase = .deploying := hmoves₁.phase
    have hfresh₁ : ctx₁.deployment = none := hmoves₁.deployment.trans hfresh
    refine Ensures.bind (o.deployAndVerify_spec artifact deployer ⟨c₁, ctx₁⟩ hphase₁ hfresh₁) ?_
    rintro r ⟨c₂, ctx₂⟩ ⟨ms₂, result, recorded₂, hdeploy, hreach₂, htokens₂, hresult⟩
    dsimp only at hreach₂ htokens₂ hresult
    have hmoves₁₂ : ∀ ctx entered recorded,
        ({ ctx₁ with deployment := ctx₂.deployment }).Moves ctx entered recorded →
        ({ s.context with deployment := ctx₂.deployment }).Moves ctx (.deploying :: entered)
          recorded := fun ctx entered recorded h =>
      by simpa using (hmoves₁.withDeployment ctx₂.deployment).trans h
    cases result with
    | error stop =>
      obtain ⟨⟨e, rfl, hlast⟩, hmoves₂⟩ := hresult
      rw [continue_error]
      exact ⟨_, .stopped stop, recorded₂, .stopped hdeploy, hreach₁.trans hreach₂,
        hmoves₁₂ _ _ _ hmoves₂, ⟨e, rfl, hlast⟩,
        fun h => absurd (Ending.verified_stopped.mp h) hdeploy.stop_ne_postSequence⟩
    | ok contract =>
      obtain ⟨rfl, hcontract, hmoves₂, hharmless₂, hran₂⟩ := hresult
      rw [continue_ok]
      obtain ⟨d, hd₂, rfl⟩ := Option.map_eq_some_iff.mp hcontract
      have hphase₂ : ctx₂.phase = .chainVerified := hmoves₂.phase
      refine Ensures.bind (o.mintPhase_spec deployer user1 user2 ⟨c₂, ctx₂⟩ hphase₂ hd₂) ?_
      rintro _ ⟨c₃, ctx₃⟩ ⟨single, batch, recorded₃, hreach₃, rfl, htokens₃, hmoves₃, hharmless₃,
        hran₃⟩
      dsimp only at hreach₃ htokens₃ hmoves₃
      rw [continue_ok]
      have hminted : ctx₃.tokens =
          mintedTokens o.demoMints d.contractAddress deployer user1 user2 single batch := by
        rw [htokens₃, htokens₂, htokens₁, hempty]
        rfl
      refine Ensures.bind (o.transferPhase_spec _ user1 user2 ⟨c₃, ctx₃⟩ hmoves₃.phase
        (hmoves₃.deployment.trans hd₂)) ?_
      rintro _ ⟨c₄, ctx₄⟩ ⟨transfer, recorded₄, hreach₄, rfl, hmoves₄, hharmless₄, hran₄⟩
      dsimp only at hreach₄ hmoves₄
      rw [hminted] at hreach₄
      rw [continue_ok]
      refine (o.validatePhase_spec ⟨c₄, ctx₄⟩ hmoves₄.phase
        ((hmoves₄.deployment.trans hmoves₃.deployment).trans hd₂)).mono ?_
      rintro r ⟨c₅, ctx₅⟩ ⟨snapshot, view, recorded₅, hreach₅, hr⟩
      dsimp only at hreach₅ hr
      have hreach : o.client.Reaches s.client
          (.signers (.ok (deployer :: user1 :: user2 :: rest)) :: ms₂ ++
            exerciseSends o.demoMints d.contractAddress deployer user1 user2 single batch
              transfer ++
            chainReads (some d.contractAddress) snapshot view) c₅ := by
        have h := hreach₁.trans (hreach₂.trans (hreach₃.trans (hreach₄.trans hreach₅)))
        simp only [exerciseSends, List.append_assoc, List.cons_append, List.nil_append] at h ⊢
        exact h
      cases r with
      | ok u =>
        obtain ⟨hagrees, hmoves₅, hharmless₅, hran₅⟩ := hr
        refine ⟨_, .completed, recorded₂ ++ recorded₃ ++ recorded₄ ++ recorded₅,
          .completed hdeploy hagrees, hreach, ?_,
          ⟨rfl, ((hharmless₂.append hharmless₃).append hharmless₄).append hharmless₅⟩,
          fun _ => ((hran₂.append hran₃).append hran₄).append hran₅⟩
        rw [hmoves₅.deployment, hmoves₄.deployment, hmoves₃.deployment]
        exact hmoves₁₂ _ _ _ (((hmoves₂.trans hmoves₃).trans hmoves₄).trans hmoves₅)
      | error e =>
        obtain ⟨hrejects, hlast, hmoves₅⟩ := hr
        refine ⟨_, .stopped .postSequenceCheck, recorded₂ ++ recorded₃ ++ recorded₄ ++ recorded₅,
          .lastRejected hdeploy hrejects, hreach, ?_, ⟨e, rfl, hlast.after _⟩,
          fun _ => ((hran₂.append hran₃).append hran₄).append hlast.ran⟩
        rw [hmoves₅.deployment, hmoves₄.deployment, hmoves₃.deployment]
        exact hmoves₁₂ _ _ _ (((hmoves₂.trans hmoves₃).trans hmoves₄).trans hmoves₅)

theorem executeDeploy_spec (artifact : Artifact) (s : Session σ)
    (hidle : s.context.phase = .idle) (hfresh : s.context.deployment = none) :
    Ensures (o.executeDeploy artifact) (fun r s' => ∃ ms ending recorded,
      DeployRunTrace o.expectations.chainId artifact ms ending ∧
      o.client.Reaches s.client ms s'.client ∧
      ({ s.context with deployment := s'.context.deployment }).Moves s'.context
        (ending.entered .deploy) recorded ∧
      ending.Concludes r recorded ∧
      (ending.verified = true → Ran deploySteps recorded)) s := by
  unfold executeDeploy
  refine Ensures.bind (o.start_spec 1 s hidle) ?_
  rintro r ⟨c₁, ctx₁⟩ ⟨answer, hreach₁, -, hr⟩
  dsimp only at hreach₁
  cases r with
  | error e =>
    obtain ⟨hfew, hmoves₁⟩ := hr
    rw [continue_error]
    refine ⟨_, .stopped .signers, [.failed deployStep e],
      .refused fun signers h => List.length_eq_zero_iff.mp (Nat.lt_one_iff.mp (hfew signers h)),
      hreach₁, ?_, ⟨e, rfl, _, rfl, by simp [Stop.step], by simp, by simp⟩,
      fun h => absurd (Ending.verified_stopped.mp h) (by simp)⟩
    rw [hmoves₁.deployment]
    exact hmoves₁
  | ok signers =>
    obtain ⟨rfl, henough, hmoves₁⟩ := hr
    match signers, henough with
    | [], h => simp at h
    | deployer :: rest, _ =>
    rw [continue_ok]
    refine ensures_bind (ensures_pure ?_)
    rw [continue_ok]
    have hphase₁ : ctx₁.phase = .deploying := hmoves₁.phase
    have hfresh₁ : ctx₁.deployment = none := hmoves₁.deployment.trans hfresh
    refine Ensures.bind (o.deployAndVerify_spec artifact deployer ⟨c₁, ctx₁⟩ hphase₁ hfresh₁) ?_
    rintro r ⟨c₂, ctx₂⟩ ⟨ms₂, result, recorded₂, hdeploy, hreach₂, -, hresult⟩
    dsimp only at hreach₂ hresult
    have hmoves₁₂ : ∀ ctx entered recorded,
        ({ ctx₁ with deployment := ctx₂.deployment }).Moves ctx entered recorded →
        ({ s.context with deployment := ctx₂.deployment }).Moves ctx (.deploying :: entered)
          recorded := fun ctx entered recorded h =>
      by simpa using (hmoves₁.withDeployment ctx₂.deployment).trans h
    cases result with
    | error stop =>
      obtain ⟨⟨e, rfl, hlast⟩, hmoves₂⟩ := hresult
      rw [continue_error]
      exact ⟨_, .stopped stop, recorded₂, .stopped hdeploy, hreach₁.trans hreach₂,
        hmoves₁₂ _ _ _ hmoves₂, ⟨e, rfl, hlast⟩,
        fun h => absurd (Ending.verified_stopped.mp h) hdeploy.stop_ne_postSequence⟩
    | ok contract =>
      obtain ⟨rfl, hcontract, hmoves₂, hharmless₂, hran₂⟩ := hresult
      rw [continue_ok]
      obtain ⟨d, hd₂, rfl⟩ := Option.map_eq_some_iff.mp hcontract
      have hallowed : ctx₂.phase.canTransition .validating = true := by
        rw [hmoves₂.phase]
        rfl
      refine ensures_bind (ensures_transition (fun moved hmove => ?_)
        (fun e he => by simp [Context.transition, hallowed] at he))
      rw [continue_ok]
      have hmoves₃ := Context.moves_transition hmove
      refine Ensures.bind (Ensures.map (ensures_tolerated (P := fun _ s' =>
          o.client.Reaches c₂ [] s'.client ∧
          ∃ recorded, moved.Moves s'.context [] recorded ∧ Harmless recorded)
        (validateMetadata_spec o.client o.expectations ⟨c₂, moved⟩ (hmoves₃.deployment.trans hd₂))
        ?_)) ?_
      · rintro r ⟨c₃, ctx₃⟩ ⟨hreach, -, recorded, htolerated⟩
        exact ⟨htolerated.notFatal, hreach, recorded, htolerated.moves, htolerated.harmless⟩
      rintro _ ⟨c₃, ctx₃⟩ ⟨_, rfl, _, rfl, hreach₃, recorded₃, hmoves₄, hharmless₃⟩
      dsimp only at hreach₃ hmoves₄
      rw [Except.map_ok, continue_ok]
      have hallowed₃ : ctx₃.phase.canTransition .completed = true := by
        rw [hmoves₄.phase_eq, hmoves₃.phase]
        rfl
      refine ensures_transition (fun done hdone => ?_)
        (fun e he => by simp [Context.transition, hallowed₃] at he)
      have hmoves₅ := Context.moves_transition hdone
      refine ⟨_, .completed, recorded₂ ++ recorded₃, .completed hdeploy,
        by simpa using hreach₁.trans (hreach₂.trans hreach₃), ?_,
        ⟨rfl, hharmless₂.append hharmless₃⟩, fun _ => hran₂.extend recorded₃⟩
      rw [hmoves₅.deployment, hmoves₄.deployment, hmoves₃.deployment]
      simpa [Ending.entered] using
        hmoves₁₂ _ _ _ (((hmoves₂.trans hmoves₃).trans hmoves₄).trans hmoves₅)

/-- Every test run that returns asked the chain what its trace says, in order, ended as the
answers decide, and left the phases and outcomes of that ending. -/
theorem testRun_spec {runId startedAt : String} {artifact : Artifact} {a b : σ}
    {context : Context} {log log' : Array LogRecord}
    (hrun : (o.runWorkflow .test runId startedAt artifact a).run log = .ok ((b, context), log')) :
    ∃ ms ending, TestTrace o.expectations.chainId o.demoMints artifact ms ending ∧
      o.client.Reaches a ms b ∧ context.EndsAs .test ending context.outcomes ∧
      ending.Recorded context.outcomes ∧
      (ending.verified = true → Ran testSteps context.outcomes) := by
  obtain ⟨r, left, ⟨ms, ending, recorded, htrace, hreach, hmoves, hconcludes, hran⟩, rfl⟩ :=
    o.runWorkflow_spec hrun (o.executeFull_spec artifact _ rfl rfl rfl)
  have hends := endsAs_of_concludes hmoves hconcludes
  rw [hends.outcomes]
  exact ⟨ms, ending, htrace, hreach, hends, hconcludes.recorded, hran⟩

/-- Every deploy run that returns asked the chain what its trace says, in order, ended as the
answers decide, and left the phases and outcomes of that ending. -/
theorem deployRun_spec {runId startedAt : String} {artifact : Artifact} {a b : σ}
    {context : Context} {log log' : Array LogRecord}
    (hrun : (o.runWorkflow .deploy runId startedAt artifact a).run log = .ok ((b, context), log')) :
    ∃ ms ending, DeployRunTrace o.expectations.chainId artifact ms ending ∧
      o.client.Reaches a ms b ∧ context.EndsAs .deploy ending context.outcomes ∧
      ending.Recorded context.outcomes ∧
      (ending.verified = true → Ran deploySteps context.outcomes) := by
  obtain ⟨r, left, ⟨ms, ending, recorded, htrace, hreach, hmoves, hconcludes, hran⟩, rfl⟩ :=
    o.runWorkflow_spec hrun (o.executeDeploy_spec artifact _ rfl rfl)
  have hends := endsAs_of_concludes hmoves hconcludes
  rw [hends.outcomes]
  exact ⟨ms, ending, htrace, hreach, hends, hconcludes.recorded, hran⟩

/-- Every run that returns asked the chain what its workflow's trace says, ended as the answers
decide, and left the phases and outcomes of that ending. -/
theorem run_spec {workflow : Workflow} {runId startedAt : String} {artifact : Artifact} {a b : σ}
    {context : Context} {log log' : Array LogRecord}
    (hrun :
      (o.runWorkflow workflow runId startedAt artifact a).run log = .ok ((b, context), log')) :
    ∃ ms ending, RunTrace o.expectations.chainId o.demoMints artifact workflow ms ending ∧
      o.client.Reaches a ms b ∧ context.EndsAs workflow ending context.outcomes ∧
      ending.Recorded context.outcomes ∧
      (ending.verified = true → Ran workflow.verifiedSteps context.outcomes) := by
  cases workflow with
  | test => exact o.testRun_spec hrun
  | deploy => exact o.deployRun_spec hrun

end Orchestrator

end NftProbe.Run
