import NftProbe.Proofs.Run.Records
import NftProbe.Proofs.Run.Transcript
import NftProbe.Run.Validation

/-!
# What the metadata validation does

The validation reads the contract's metadata with a plain read and records one outcome per
compared field; a difference is reported, never fatal, and a failed read is a client failure.
-/

set_option autoImplicit false

namespace NftProbe.Run

open StepM Contract

variable {σ : Type} (c : Client σ)

theorem compareField_run {field expected observed : String} {log log' : Array LogRecord}
    {o : StepOutcome} (h : (compareField field expected observed).run log = .ok (o, log')) :
    o.severity ≠ some .fatal := by
  unfold compareField at h
  by_cases hsame : expected = observed
  · simp only [hsame, if_true, logged_pure_run, Except.ok.injEq, Prod.mk.injEq] at h
    obtain ⟨rfl, -⟩ := h
    simp
  · simp only [hsame, if_false, emit_bind_run, logged_pure_run, Except.ok.injEq,
      Prod.mk.injEq] at h
    obtain ⟨rfl, -⟩ := h
    simp [HarnessError.kind, ErrorKind.severity]

theorem readInfo_spec (s : Session σ) {d : DeploymentResult}
    (hd : s.context.deployment = some d) :
    Ensures (readInfo c) (fun r s' => s'.context = s.context ∧ c.Reaches s.client [] s'.client ∧
      ∀ e, r = .error e → e.kind = .clientFailure) s := by
  unfold readInfo
  refine ensures_bind (ensures_contract ?_)
  simp only [Context.contract, hd, continue_ok]
  refine ensures_bind (ensures_call fun answer c₁ hanswer => ?_)
  rw [continue_ok]
  have hquiet : c.Reaches s.client [] c₁ :=
    Client.Reaches.quiet (e := .read d.contractAddress getContractInfo answer) hanswer
      (Exchange.isMilestone_read (by decide))
  cases answer with
  | error err => exact ensures_throw ⟨rfl, hquiet, fun e he => by cases he; rfl⟩
  | ok tokens =>
    refine ensures_fromResult ⟨rfl, hquiet, fun e he => ?_⟩
    cases hinfo : ContractInfo.ofTokens tokens with
    | ok info => simp [hinfo, Except.mapError] at he
    | error abiError =>
      simp only [hinfo, Except.mapError, Except.error.injEq] at he
      subst he
      rfl

theorem validateMetadata_spec (expectations : Expectations) (s : Session σ) {d : DeploymentResult}
    (hd : s.context.deployment = some d) :
    Ensures (validateMetadata c expectations) (fun r s' => c.Reaches s.client [] s'.client ∧
      s'.context.tokens = s.context.tokens ∧
      ∃ recorded, Tolerated s.context s'.context recorded r) s := by
  unfold validateMetadata
  have hread : Ensures (tryCatch (readInfo c) fun error => do
      emit .warn ("Could not read contract info: " ++ error.message)
      record (StepOutcome.failed validationStep error)
      throw error) (fun r s' => c.Reaches s.client [] s'.client ∧ match r with
        | .ok _ => s'.context = s.context
        | .error e => s'.context = s.context.record (.failed validationStep e) ∧
            e.kind = .clientFailure) s := by
    refine ensures_tryCatch_of (readInfo_spec c s hd) ?_
    rintro (e | info) ⟨c₁, ctx₁⟩ ⟨hctx, hreach, hkind⟩ <;> dsimp only at hctx hreach <;> subst hctx
    · rw [handle_error]
      refine ensures_bind (ensures_emit ?_)
      rw [continue_ok]
      refine ensures_bind (ensures_record ?_)
      rw [continue_ok]
      exact ensures_throw ⟨hreach, rfl, hkind e rfl⟩
    · exact ⟨hreach, rfl⟩
  refine Ensures.bind hread ?_
  rintro (e | info) ⟨c₁, ctx₁⟩ ⟨hreach, hctx⟩ <;> dsimp only at hctx hreach
  · obtain ⟨rfl, hkind⟩ := hctx
    refine ⟨hreach, rfl, [.failed validationStep e], Context.moves_record _ _, ?_, ?_⟩
    · simp [hkind, ErrorKind.severity]
    · rintro _ ⟨⟩
      simp [HarnessError.isFatal, hkind, ErrorKind.isFatal, ErrorKind.severity]
  subst hctx
  rw [continue_ok]
  iterate 7
    refine ensures_bind (ensures_emit ?_)
    rw [continue_ok]
  refine ensures_bind (ensures_context ?_)
  rw [continue_ok]
  refine ensures_bind (ensures_checked fun expected _ => ?_)
  rw [continue_ok]
  refine Ensures.bind (ensures_forIn (fun _ _ s' => s'.client = c₁ ∧
    s'.context.tokens = s.context.tokens ∧
    ∃ recorded, s.context.Moves s'.context [] recorded ∧ ∀ o ∈ recorded, o.severity ≠ some .fatal)
    ?_ ⟨rfl, rfl, [], Context.Moves.refl _, by simp⟩) ?_
  · rintro pre ⟨field, expected, observed⟩ rest u ⟨c₂, ctx₂⟩ -
      ⟨rfl, htokens, recorded, hmoves, hharmless⟩
    refine ensures_bind (ensures_liftM fun log o log' hrun => ?_)
    rw [continue_ok]
    refine ensures_bind (ensures_record ?_)
    rw [continue_ok]
    refine ensures_pure
      ⟨_, rfl, rfl, htokens, recorded ++ [o], hmoves.trans (Context.moves_record _ _), ?_⟩
    intro o' ho'
    rcases List.mem_append.mp ho' with ho' | ho'
    · exact hharmless o' ho'
    · rw [List.mem_singleton.mp ho']
      exact compareField_run hrun
  · rintro _ ⟨c₂, ctx₂⟩ ⟨u, rfl, rfl, htokens, recorded, hmoves, hharmless⟩
    rw [continue_ok]
    exact ensures_pure ⟨hreach, htokens, recorded, hmoves, hharmless, by rintro _ ⟨⟩⟩

end NftProbe.Run
