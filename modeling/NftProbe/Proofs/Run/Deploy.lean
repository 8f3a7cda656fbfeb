import NftProbe.Proofs.Run.ChainCheck
import NftProbe.Run.Deploy

/-!
# The deploy step

The deploy step creates the contract from the deployer, with the admin as constructor argument,
and counts the creation only when its transaction was included, did not revert, and names a
non-zero contract (`createdBy`). Its spec: in a phase that may change the chain and before any
deployment, it makes exactly one creation call, records one outcome, and sets the deployment
exactly when the answer creates a contract; every error it raises is a failed deployment. In any
other phase it makes no call at all (`deploy_halted`).
-/

set_option autoImplicit false

namespace NftProbe.Run

open StepM Contract

/-- The contract a creation's answer reports: one whose transaction was included and succeeded,
at a non-zero address. -/
def createdBy : Except ClientError Deployment → Option Address
  | .ok deployment => deployment.createdAddress
  | .error _ => none

/-- A transaction's receipt passes exactly when it was included, with that receipt, and did not
revert. -/
theorem successfulReceipt_eq_ok {outcome : TxOutcome} {receipt : Receipt} :
    successfulReceipt outcome = .ok receipt ↔
      outcome.confirmed = true ∧ outcome.receipt = some receipt ∧ receipt.status = true := by
  obtain ⟨hash, included, confirmed⟩ := outcome
  cases confirmed with
  | false => simp [successfulReceipt]
  | true =>
    cases included with
    | none => simp [successfulReceipt]
    | some r =>
      by_cases hstatus : r.status = true
      · simp only [successfulReceipt, hstatus, Bool.not_true, Bool.false_eq_true, reduceIte,
          Except.ok.injEq, Option.some.injEq, true_and]
        constructor
        · rintro rfl
          exact ⟨rfl, hstatus⟩
        · rintro ⟨rfl, -⟩
          rfl
      · simp only [successfulReceipt, hstatus, Bool.not_true, Bool.false_eq_true, reduceIte,
          Option.some.injEq, true_and, reduceCtorEq, false_iff, not_and]
        rintro rfl
        exact hstatus

theorem succeeded_iff {outcome : TxOutcome} :
    outcome.succeeded = true ↔ ∃ receipt, successfulReceipt outcome = .ok receipt := by
  simp only [TxOutcome.succeeded, successfulReceipt_eq_ok, Bool.and_eq_true]
  cases outcome.receipt <;> simp

/-- A creation whose transaction did not succeed creates no contract. -/
theorem createdAddress_eq_none {deployment : Deployment} {message : String}
    (h : successfulReceipt deployment.outcome = .error message) :
    deployment.createdAddress = none := by
  have hfailed : deployment.outcome.succeeded = false := by
    rw [← Bool.not_eq_true, succeeded_iff]
    rintro ⟨receipt, hreceipt⟩
    rw [hreceipt] at h
    cases h
  simp [Deployment.createdAddress, hfailed]

variable {σ : Type} (c : Client σ)

/-- The creation call of a deploy step, and what it leaves: the deployment when the answer
creates a contract, the context unchanged otherwise, and every error a failed deployment. The
balance is read for the record only: both answers lead to the same creation. -/
theorem tryDeploy_spec (artifact : Artifact) (deployer admin : Address) (s : Session σ)
    (hmutable : s.context.phase.allowsMutations = true) (hfresh : s.context.deployment = none) :
    Ensures (tryDeploy c artifact deployer admin) (fun r s' =>
      ∃ answer,
        c.Reaches s.client [.deploy deployer artifact.bytecode (constructorArgs admin) answer]
          s'.client ∧
        (∀ result outcome, r = .ok (result, outcome) →
          createdBy answer = some result.contractAddress ∧
          s'.context = { s.context with deployment := some result } ∧
          outcome.step = deployStep ∧ outcome.success = true ∧ outcome.error = none) ∧
        (∀ e, r = .error e → e.kind = .deploymentFailed ∧ createdBy answer = none ∧
          s'.context = s.context)) s := by
  unfold tryDeploy
  refine ensures_bind (ensures_ensureMutable ?_)
  simp only [Context.ensureMutable, hmutable, if_true, continue_ok]
  refine ensures_bind (ensures_emit ?_)
  rw [continue_ok]
  refine ensures_bind (ensures_call fun balance c₁ hbalance => ?_)
  rw [continue_ok]
  have hquiet : c.Reaches s.client [] c₁ :=
    Client.Reaches.quiet (e := .balance deployer balance) hbalance rfl
  split
  all_goals
    refine ensures_bind (ensures_emit ?_)
    rw [continue_ok]
    refine ensures_bind (ensures_pure ?_)
    rw [continue_ok]
    refine ensures_bind (ensures_call fun answer c₂ hanswer => ?_)
    rw [continue_ok]
    have hreach := hquiet.trans (Client.Reaches.milestone
      (e := .deploy deployer artifact.bytecode (constructorArgs admin) answer) hanswer rfl)
    rw [List.nil_append] at hreach
    cases answer with
    | error err =>
      refine ensures_throw ⟨.error err, hreach, (fun _ _ h => by cases h), ?_⟩
      rintro e ⟨⟩
      exact ⟨rfl, rfl, rfl⟩
    | ok deployment =>
      refine ensures_bind (ensures_pure ?_)
      rw [continue_ok]
      refine ensures_bind (ensures_fromResult ?_)
      cases hreceipt : successfulReceipt deployment.outcome with
      | error message =>
        refine ⟨.ok deployment, hreach, (fun _ _ h => by cases h), ?_⟩
        rintro e ⟨⟩
        exact ⟨rfl, createdAddress_eq_none hreceipt, rfl⟩
      | ok receipt =>
        simp only [Except.mapError, continue_ok]
        split
        · rename_i contract hcreated
          refine ensures_bind (ensures_context ?_)
          rw [continue_ok]
          refine ensures_bind (ensures_fromResult ?_)
          simp only [Context.setDeployment, hfresh, continue_ok]
          refine ensures_bind (ensures_modifyContext ?_)
          rw [continue_ok]
          refine ensures_bind (ensures_emit ?_)
          rw [continue_ok]
          refine ensures_pure ⟨.ok deployment, hreach, ?_, fun e he => by cases he⟩
          rintro result outcome h
          simp only [Except.ok.injEq, Prod.mk.injEq] at h
          obtain ⟨rfl, rfl⟩ := h
          refine ⟨hcreated, rfl, ?_⟩
          simp
        · rename_i hnone
          refine ensures_throw ⟨.ok deployment, hreach, (fun _ _ h => by cases h), ?_⟩
          rintro e ⟨⟩
          exact ⟨rfl, Option.eq_none_iff_forall_ne_some.2 hnone, rfl⟩
/-- Every deploy step, in a phase that may change the chain and before any deployment, makes the
one creation call, records one outcome under its name, and sets the deployment exactly when the
answer creates a contract. -/
theorem deploy_spec (artifact : Artifact) (deployer admin : Address) (s : Session σ)
    (hmutable : s.context.phase.allowsMutations = true) (hfresh : s.context.deployment = none) :
    Ensures (deploy c artifact deployer admin) (fun r s' =>
      ∃ answer recorded,
        c.Reaches s.client [.deploy deployer artifact.bytecode (constructorArgs admin) answer]
          s'.client ∧
        s'.context.tokens = s.context.tokens ∧
        ({ s.context with deployment := s'.context.deployment }).Moves s'.context [] recorded ∧
        CheckVerdict deployStep (createdBy answer).isSome r recorded ∧
        match r with
        | .ok result => createdBy answer = some result.contractAddress ∧
            s'.context.deployment = some result
        | .error _ => s'.context.deployment = none) s := by
  unfold deploy
  refine ensures_tryCatch
    (Ensures.bind (tryDeploy_spec c artifact deployer admin s hmutable hfresh) ?_)
  rintro r ⟨c₁, ctx₁⟩ ⟨answer, hreach, hok, herr⟩
  cases r with
  | ok pair =>
    obtain ⟨result, outcome⟩ := pair
    obtain ⟨hcreated, hctx, hstep, hsuccess, herror⟩ := hok result outcome rfl
    dsimp only at hctx
    subst hctx
    rw [continue_ok]
    refine ensures_bind (ensures_record ?_)
    rw [continue_ok]
    refine ensures_pure
      ⟨answer, [outcome], hreach, rfl, Context.moves_record _ _, ?_, hcreated, rfl⟩
    rw [hcreated]
    exact ⟨⟨result, rfl⟩, by simp [hstep], by simp [StepOutcome.severity_of_error_none herror]⟩
  | error e =>
    obtain ⟨hkind, hnone, hctx⟩ := herr e rfl
    dsimp only at hctx
    subst hctx
    rw [continue_error, handle_error]
    refine ensures_bind (ensures_record ?_)
    rw [continue_ok]
    refine ensures_throw ⟨answer, _, hreach, rfl, Context.moves_record _ _,
      ?_, hfresh⟩
    rw [hnone]
    exact ⟨e, _, rfl, rfl, by simp, by simp, by simp⟩

/-- In a phase that may not change the chain the deploy step creates nothing: it makes no call
at all and fails with the phase. -/
theorem deploy_halted (artifact : Artifact) (deployer admin : Address) (s : Session σ)
    (hhalted : s.context.phase.allowsMutations = false) :
    Ensures (deploy c artifact deployer admin) (fun r s' =>
      s'.client = s.client ∧ r = .error (.mutationsHalted s.context.phase)) s := by
  unfold deploy tryDeploy
  refine ensures_tryCatch (ensures_bind (ensures_halted hhalted ?_))
  rw [continue_error, handle_error]
  refine ensures_bind (ensures_record ?_)
  rw [continue_ok]
  exact ensures_throw ⟨rfl, rfl⟩

end NftProbe.Run
