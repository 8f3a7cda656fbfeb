import NftProbe.Proofs.Run.Deploy
import NftProbe.Run.Orchestrator

/-!
# The start of a run, up to the verified chain

Both workflows start the same way. They enter the deploying phase and list the signers they
need; then they check the chain, deploy from the first signer, check the chain again with the
contract, and mark the chain verified. A failed check rejects the chain.

`DeployTrace` says what the stretch between the two checks asks the chain, and how it ends, by
the answers it gets: rejected before the deployment, no contract created, rejected after it, or
verified with the contract at an address. `Stop` names the ways a run stops early, with the
step whose failure it records last and the phases it enters on the way.
-/

set_option autoImplicit false

namespace NftProbe.Run

open StepM Contract

/-- Where a run that did not complete stopped. -/
inductive Stop
  | signers
  | preDeployCheck
  | deployment
  | postDeployCheck
  | postSequenceCheck
deriving DecidableEq, Repr

namespace Stop

/-- The step whose failure stopped the run. -/
def step : Stop → String
  | .signers | .deployment => deployStep
  | .preDeployCheck => chainCheckStep preDeploy
  | .postDeployCheck => chainCheckStep postDeploy
  | .postSequenceCheck => chainCheckStep postSequence

/-- The phases the run entered after `deploying` and before it stopped. -/
def entered : Stop → List Phase
  | .signers | .deployment => []
  | .preDeployCheck | .postDeployCheck => [.chainRejected]
  | .postSequenceCheck => [.chainVerified, .minting, .transferring, .validating]

end Stop

/-- The creation of the contract from `deployer`, who is also its admin. -/
def deployCall (artifact : Artifact) (deployer : Address)
    (answer : Except ClientError Deployment) : Exchange :=
  .deploy deployer artifact.bytecode (constructorArgs deployer) answer

/-- What a deployment between two chain checks asks the chain, and how it ends: stopped by a
check or by a creation that failed, or with the chain verified and the contract at an address. -/
inductive DeployTrace (expected : Nat) (artifact : Artifact) (deployer : Address) :
    List Exchange → Except Stop Address → Prop
  | preDeployRejected {snapshot : Except ClientError BlockSnapshot}
      {view : Except ClientError (List Abi.Token)}
      (hpre : chainAgrees expected none snapshot view = false) :
      DeployTrace expected artifact deployer (chainReads none snapshot view)
        (.error .preDeployCheck)
  | notCreated {snapshot : Except ClientError BlockSnapshot}
      {view : Except ClientError (List Abi.Token)} {answer : Except ClientError Deployment}
      (hpre : chainAgrees expected none snapshot view = true) (hcreated : createdBy answer = none) :
      DeployTrace expected artifact deployer
        (chainReads none snapshot view ++ [deployCall artifact deployer answer])
        (.error .deployment)
  | postDeployRejected {snapshot snapshot' : Except ClientError BlockSnapshot}
      {view view' : Except ClientError (List Abi.Token)} {answer : Except ClientError Deployment}
      {contract : Address}
      (hpre : chainAgrees expected none snapshot view = true)
      (hcreated : createdBy answer = some contract)
      (hpost : chainAgrees expected (some contract) snapshot' view' = false) :
      DeployTrace expected artifact deployer
        (chainReads none snapshot view ++
          deployCall artifact deployer answer :: chainReads (some contract) snapshot' view')
        (.error .postDeployCheck)
  | verified {snapshot snapshot' : Except ClientError BlockSnapshot}
      {view view' : Except ClientError (List Abi.Token)} {answer : Except ClientError Deployment}
      {contract : Address}
      (hpre : chainAgrees expected none snapshot view = true)
      (hcreated : createdBy answer = some contract)
      (hpost : chainAgrees expected (some contract) snapshot' view' = true) :
      DeployTrace expected artifact deployer
        (chainReads none snapshot view ++
          deployCall artifact deployer answer :: chainReads (some contract) snapshot' view')
        (.ok contract)

namespace Orchestrator

variable {σ : Type} (o : Orchestrator σ)

theorem start_spec (needed : Nat) (s : Session σ) (hidle : s.context.phase = .idle) :
    Ensures (o.start needed) (fun r s' => ∃ answer,
      o.client.Reaches s.client [.signers answer] s'.client ∧
      s'.context.tokens = s.context.tokens ∧
      match r with
      | .ok signers => answer = .ok signers ∧ needed ≤ signers.length ∧
          s.context.Moves s'.context [.deploying] []
      | .error e => (∀ signers, answer = .ok signers → signers.length < needed) ∧
          s.context.Moves s'.context [.deploying] [.failed deployStep e]) s := by
  unfold start
  have hallowed : s.context.phase.canTransition .deploying = true := by
    rw [hidle]
    rfl
  refine ensures_bind (ensures_transition (fun moved hmove => ?_) (fun e he => ?_))
  · rw [continue_ok]
    have hmoves := Context.moves_transition hmove
    have htokens := Context.transition_tokens hmove
    refine ensures_bind (ensures_call fun answer c₁ hanswer => ?_)
    rw [continue_ok]
    have hreach : o.client.Reaches s.client [.signers answer] c₁ :=
      Client.Reaches.milestone hanswer rfl
    cases answer with
    | error err =>
      dsimp only
      refine ensures_bind (ensures_record ?_)
      rw [continue_ok]
      exact ensures_fromResult ⟨_, hreach, htokens, (fun _ h => by cases h),
        hmoves.trans (Context.moves_record _ _)⟩
    | ok signers =>
      dsimp only
      by_cases hfew : signers.length < needed
      · simp only [hfew, if_true]
        refine ensures_bind (ensures_record ?_)
        rw [continue_ok]
        exact ensures_fromResult ⟨_, hreach, htokens, (fun _ h => by cases h; exact hfew),
          hmoves.trans (Context.moves_record _ _)⟩
      · simp only [hfew, if_false]
        exact ensures_fromResult ⟨_, hreach, htokens, rfl, Nat.le_of_not_lt hfew, hmoves⟩
  · simp [Context.transition, hallowed] at he

/-- A chain check the run cannot do without: it records the check's verdict and, when the check
fails, rejects the chain. -/
theorem gate_spec (label : String) (s : Session σ) (hphase : s.context.phase = .deploying) :
    Ensures (o.gate label) (fun r s' => ∃ snapshot view recorded,
      o.client.Reaches s.client
        (chainReads (s.context.deployment.map (·.contractAddress)) snapshot view) s'.client ∧
      s'.context.tokens = s.context.tokens ∧
      CheckVerdict (chainCheckStep label)
        (chainAgrees o.expectations.chainId (s.context.deployment.map (·.contractAddress))
          snapshot view) r recorded ∧
      s.context.Moves s'.context (match r with | .ok _ => [] | .error _ => [.chainRejected])
        recorded) s := by
  unfold gate
  refine ensures_tryCatch_of (Ensures.map (checkL3_spec o.client o.expectations label s)) ?_
  rintro r ⟨c₁, ctx₁⟩ ⟨r₀, rfl, snapshot, view, recorded, hreach, hmoves, htokens, hverdict⟩
  dsimp only at hreach hmoves htokens
  cases r₀ with
  | ok a => exact ⟨snapshot, view, recorded, hreach, htokens, hverdict.map _, hmoves⟩
  | error e =>
    dsimp only [Functor.map, Except.map]
    rw [handle_error]
    have hallowed : ctx₁.phase.canTransition .chainRejected = true := by
      rw [hmoves.phase_eq, hphase]
      rfl
    refine ensures_bind (ensures_transition (fun moved hmove => ?_) (fun e' he => ?_))
    · rw [continue_ok]
      refine ensures_throw ⟨snapshot, view, recorded, hreach,
        (Context.transition_tokens hmove).trans htokens, hverdict.map fun _ => (), ?_⟩
      simpa using hmoves.trans (Context.moves_transition hmove)
    · simp [Context.transition, hallowed] at he

theorem deployAndVerify_spec (artifact : Artifact) (deployer : Address) (s : Session σ)
    (hphase : s.context.phase = .deploying) (hfresh : s.context.deployment = none) :
    Ensures (o.deployAndVerify artifact deployer) (fun r s' => ∃ ms result recorded,
      DeployTrace o.expectations.chainId artifact deployer ms result ∧
      o.client.Reaches s.client ms s'.client ∧ s'.context.tokens = s.context.tokens ∧
      match result with
      | .ok contract => r = .ok () ∧ s'.context.deployment.map (·.contractAddress) = some contract ∧
          ({ s.context with deployment := s'.context.deployment }).Moves s'.context
            [.chainVerified] recorded ∧ Harmless recorded ∧
          Ran [chainCheckStep preDeploy, deployStep, chainCheckStep postDeploy] recorded
      | .error stop => (∃ e, r = .error e ∧ EndsWithFailure stop.step e recorded) ∧
          ({ s.context with deployment := s'.context.deployment }).Moves s'.context
            stop.entered recorded) s := by
  unfold deployAndVerify
  refine Ensures.bind (o.gate_spec preDeploy s hphase) ?_
  rintro r ⟨c₁, ctx₁⟩ ⟨snapshot, view, recorded₁, hreach₁, htokens₁, hverdict₁, hmoves₁⟩
  dsimp only at hreach₁ htokens₁ hmoves₁
  rw [hfresh] at hreach₁ hverdict₁
  cases r with
  | error e =>
    obtain ⟨hpre, hlast⟩ := hverdict₁.fails_of_error
    refine ⟨_, _, recorded₁, .preDeployRejected hpre, hreach₁, htokens₁, ⟨e, rfl, hlast⟩, ?_⟩
    rw [hmoves₁.deployment]
    exact hmoves₁
  | ok u =>
    obtain ⟨hpre, hran₁, hharmless₁⟩ := hverdict₁.passes_of_ok
    rw [continue_ok]
    refine ensures_bind (ensures_emit ?_)
    rw [continue_ok]
    have hmutable : ctx₁.phase.allowsMutations = true := by
      rw [hmoves₁.phase_eq, hphase]
      rfl
    have hfresh₁ : ctx₁.deployment = none := hmoves₁.deployment.trans hfresh
    refine Ensures.bind (Ensures.map (deploy_spec o.client artifact deployer deployer ⟨c₁, ctx₁⟩
      hmutable hfresh₁)) ?_
    rintro _ ⟨c₂, ctx₂⟩ ⟨r₂, rfl, answer, recorded₂, hreach₂, htokens₂, hmoves₂, hverdict₂, hr₂⟩
    dsimp only at hreach₂ htokens₂ hmoves₂ hr₂
    have hmoves₁₂ := (hmoves₁.withDeployment ctx₂.deployment).trans hmoves₂
    cases r₂ with
    | error e =>
      obtain ⟨hcreated, hlast⟩ := hverdict₂.fails_of_error
      refine ⟨_, _, recorded₁ ++ recorded₂,
        .notCreated hpre (by simpa using hcreated), hreach₁.trans hreach₂,
        htokens₂.trans htokens₁, ⟨e, rfl, hlast.after recorded₁⟩, ?_⟩
      exact hmoves₁₂
    | ok result =>
      obtain ⟨hcreated, hdeployment⟩ := hr₂
      obtain ⟨-, hran₂, hharmless₂⟩ := hverdict₂.passes_of_ok
      dsimp only [Functor.map, Except.map, continue_ok]
      have hphase₂ : ctx₂.phase = .deploying := by
        rw [hmoves₂.phase_eq, hmoves₁.phase_eq, hphase]
      refine Ensures.bind (o.gate_spec postDeploy ⟨c₂, ctx₂⟩ hphase₂) ?_
      rintro r ⟨c₃, ctx₃⟩ ⟨snapshot', view', recorded₃, hreach₃, htokens₃, hverdict₃, hmoves₃⟩
      dsimp only at hreach₃ htokens₃ hmoves₃ hverdict₃
      rw [hdeployment] at hreach₃ hverdict₃
      have hdeployment₃ : ctx₃.deployment = some result := hmoves₃.deployment.trans hdeployment
      cases r with
      | error e =>
        obtain ⟨hpost, hlast⟩ := hverdict₃.fails_of_error
        refine ⟨_, _, recorded₁ ++ recorded₂ ++ recorded₃,
          .postDeployRejected hpre hcreated hpost, hreach₁.trans (hreach₂.trans hreach₃),
          htokens₃.trans (htokens₂.trans htokens₁), ⟨e, rfl, hlast.after _⟩, ?_⟩
        rw [hmoves₃.deployment]
        exact hmoves₁₂.trans hmoves₃
      | ok u =>
        obtain ⟨hpost, hran₃, hharmless₃⟩ := hverdict₃.passes_of_ok
        rw [continue_ok]
        have hallowed : ctx₃.phase.canTransition .chainVerified = true := by
          rw [hmoves₃.phase_eq, hphase₂]
          rfl
        refine ensures_transition (fun moved hmove => ?_) (fun e he => ?_)
        · have hmoves₄ := Context.moves_transition hmove
          refine ⟨_, _, recorded₁ ++ recorded₂ ++ recorded₃,
            .verified hpre hcreated hpost, hreach₁.trans (hreach₂.trans hreach₃),
            ((Context.transition_tokens hmove).trans htokens₃).trans (htokens₂.trans htokens₁),
            rfl, ?_, ?_, (hharmless₁.append hharmless₂).append hharmless₃,
            (hran₁.append hran₂).append hran₃⟩
          · rw [hmoves₄.deployment, hdeployment₃]
            rfl
          · rw [hmoves₄.deployment, hmoves₃.deployment]
            simpa using (hmoves₁₂.trans hmoves₃).trans hmoves₄
        · simp [Context.transition, hallowed] at he

end Orchestrator

end NftProbe.Run
