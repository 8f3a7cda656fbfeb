import NftProbe.Proofs.Run.Mint
import NftProbe.Run.Transfer

/-!
# What the transfer and the token audit do

A read of one value makes no milestone call, leaves the context alone and fails only as a client
failure. The transfer sends at most one transaction, the transfer of the token from its recorded
owner (`transferSends`), and records one outcome that is never fatal; the audit reads every
token, never fails, and records only outcomes that are not fatal either.
-/

set_option autoImplicit false

namespace NftProbe.Run

open StepM Contract

variable {σ : Type} (c : Client σ)

theorem readSingle_spec {γ : Type} (contract : Address) (query : Abi.Call)
    (convert : Abi.Token → Except Abi.AbiError γ) (s : Session σ)
    (hquery : query.signature ≠ validateL3ChainSignature) :
    Ensures (readSingle c contract query convert) (fun r s' => s'.context = s.context ∧
      c.Reaches s.client [] s'.client ∧ ∃ v : Except HarnessError γ, r = .ok v ∧
        ∀ e, v = .error e → e.kind = .clientFailure) s := by
  unfold readSingle
  refine ensures_bind (ensures_call fun answer c₁ hanswer => ?_)
  rw [continue_ok]
  have hquiet : c.Reaches s.client [] c₁ :=
    Client.Reaches.quiet (e := .read contract query answer) hanswer
      (Exchange.isMilestone_read hquery)
  cases answer with
  | error err => exact ensures_pure ⟨rfl, hquiet, _, rfl, fun e he => by cases he; rfl⟩
  | ok tokens =>
    refine ensures_pure ⟨rfl, hquiet, _, rfl, fun e he => ?_⟩
    cases hvalue : Contract.single tokens >>= convert with
    | ok value => simp [hvalue, Except.mapError] at he
    | error abiError =>
      simp only [hvalue, Except.mapError, Except.error.injEq] at he
      subst he
      rfl

/-- The transaction a transfer step sends: the transfer of the token from the owner recorded in
`tokens`, when the run recorded the token. -/
def transferSends (tokens : Table Nat TokenRecord) (contract : Address) (tokenId : Nat)
    (sender recipient : Address) (answer : Except ClientError TxOutcome) : List Exchange :=
  match tokens.get? tokenId with
  | some token => [.send sender contract (transferFrom token.owner recipient tokenId) answer]
  | none => []

theorem tryTransfer_spec (tokenId : Nat) (sender recipient : Address) (s : Session σ)
    {d : DeploymentResult} (hmutable : s.context.phase.allowsMutations = true)
    (hd : s.context.deployment = some d) :
    Ensures (tryTransfer c tokenId sender recipient) (fun r s' => s'.context = s.context ∧
      (∃ answer, c.Reaches s.client
        (transferSends s.context.tokens d.contractAddress tokenId sender recipient answer)
        s'.client) ∧
      match r with
      | .ok o => o.step = transferStep ∧ o.error = none
      | .error e => e.isFatal = false) s := by
  unfold tryTransfer
  refine ensures_bind (ensures_ensureMutable ?_)
  simp only [Context.ensureMutable, hmutable, if_true, continue_ok]
  refine ensures_bind (ensures_contract ?_)
  simp only [Context.contract, hd, continue_ok]
  refine ensures_bind (ensures_context ?_)
  rw [continue_ok]
  split
  · rename_i token htoken
    have htracked : s.context.tokens.get? tokenId = some token := htoken
    simp only [transferSends, htracked]
    refine ensures_bind (ensures_emit ?_)
    rw [continue_ok]
    refine ensures_bind (ensures_call fun answer c₁ hanswer => ?_)
    rw [continue_ok]
    have hsend : c.Reaches s.client
        [.send sender d.contractAddress (transferFrom token.owner recipient tokenId) answer] c₁ :=
      Client.Reaches.milestone
        (e := .send sender d.contractAddress (transferFrom token.owner recipient tokenId) answer)
        hanswer rfl
    cases answer with
    | error err => exact ensures_bind (ensures_throw ⟨rfl, ⟨_, hsend⟩, rfl⟩)
    | ok outcome =>
      refine ensures_bind (ensures_pure ?_)
      rw [continue_ok]
      refine ensures_bind (ensures_fromResult ?_)
      cases hreceipt : successfulReceipt outcome with
      | error message => exact ⟨rfl, ⟨_, hsend⟩, rfl⟩
      | ok receipt =>
        simp only [Except.mapError, continue_ok]
        refine Ensures.bind (readSingle_spec c _ _ _ _
          (by exact (by decide : ownerOfSignature ≠ validateL3ChainSignature))) ?_
        rintro _ ⟨c₂, ctx₂⟩ ⟨hctx, hquiet, v, rfl, -⟩
        dsimp only at hctx hquiet
        subst hctx
        rw [continue_ok]
        have hreach := hsend.trans hquiet
        rw [List.append_nil] at hreach
        cases v with
        | error e => exact ensures_bind (ensures_throw ⟨rfl, ⟨_, hreach⟩, rfl⟩)
        | ok owner =>
          refine ensures_bind (ensures_pure ?_)
          rw [continue_ok]
          split
          · exact ensures_bind (ensures_throw ⟨rfl, ⟨_, hreach⟩, rfl⟩)
          · refine ensures_bind (ensures_emit ?_)
            rw [continue_ok]
            exact ensures_pure ⟨rfl, ⟨_, hreach⟩, by simp, by simp⟩
  · rename_i hnone
    refine ensures_throw ⟨rfl, ⟨.error (.transport ""), ?_⟩, rfl⟩
    have huntracked : s.context.tokens.get? tokenId = none :=
      Option.eq_none_iff_forall_ne_some.2 hnone
    rw [transferSends, huntracked]
    exact Client.Reaches.refl _

/-- In a phase that may not change the chain the transfer sends nothing: it leaves the client as
it was and fails. -/
theorem transferToken_halted (tokenId : Nat) (sender recipient : Address) (s : Session σ)
    (hhalted : s.context.phase.allowsMutations = false) :
    Ensures (transferToken c tokenId sender recipient) (fun r s' =>
      s'.client = s.client ∧ ∃ e, r = .error e) s := by
  unfold transferToken tryTransfer
  refine ensures_tryCatch (ensures_bind (ensures_halted hhalted ?_))
  rw [continue_error, handle_error]
  refine ensures_bind (ensures_emit ?_)
  rw [continue_ok]
  refine ensures_bind (ensures_record ?_)
  rw [continue_ok]
  exact ensures_throw ⟨rfl, _, rfl⟩

theorem transferToken_spec (tokenId : Nat) (sender recipient : Address) (s : Session σ)
    {d : DeploymentResult} (hmutable : s.context.phase.allowsMutations = true)
    (hd : s.context.deployment = some d) :
    Ensures (transferToken c tokenId sender recipient) (fun r s' =>
      (∃ answer, c.Reaches s.client
        (transferSends s.context.tokens d.contractAddress tokenId sender recipient answer)
        s'.client) ∧
      ∃ recorded, Tolerated s.context s'.context recorded r ∧
        transferStep ∈ recorded.map (·.step)) s := by
  unfold transferToken
  refine ensures_tryCatch_of (Q := fun r s' =>
      (∃ answer, c.Reaches s.client
        (transferSends s.context.tokens d.contractAddress tokenId sender recipient answer)
        s'.client) ∧
      match r with
      | .ok () => ∃ o, s'.context = (s.context.setOwner tokenId recipient).record o ∧
          o.step = transferStep ∧ o.error = none
      | .error e => e.isFatal = false ∧ s'.context = s.context) ?_ ?_
  · refine Ensures.bind (tryTransfer_spec c tokenId sender recipient s hmutable hd) ?_
    rintro r ⟨c₁, ctx₁⟩ ⟨hctx, hsends, hr⟩
    dsimp only at hctx hsends
    subst hctx
    cases r with
    | error e => exact ⟨hsends, hr, rfl⟩
    | ok o =>
      rw [continue_ok]
      refine ensures_bind (ensures_modifyContext ?_)
      rw [continue_ok]
      exact ensures_record ⟨hsends, o, rfl, hr⟩
  · rintro r ⟨c', ctx'⟩ ⟨hsends, hr⟩
    cases r with
    | ok u =>
      obtain ⟨o, hctx, hstep, herror⟩ := hr
      dsimp only at hctx
      subst hctx
      rw [handle_ok]
      refine ⟨hsends, [o],
        ⟨(Context.moves_setOwner _ _ _).trans (Context.moves_record _ o), ?_, ?_⟩, by simp [hstep]⟩
      · simp [StepOutcome.severity_of_error_none herror]
      · rintro e ⟨⟩
    | error e =>
      obtain ⟨hnotFatal, hctx⟩ := hr
      dsimp only at hctx
      subst hctx
      rw [handle_error]
      refine ensures_bind (ensures_emit ?_)
      rw [continue_ok]
      generalize hfailed : ((StepOutcome.failed transferStep e).detail "sender"
        (.string sender.toHex)).detail "to" (.string recipient.toHex) = failed
      have hrecord :
          Tolerated s.context (s.context.record failed) [failed] (.error e : Except _ Unit) ∧
          Tolerated s.context ((s.context.setOwner tokenId recipient).record failed) [failed]
            (.error e : Except _ Unit) := by
        have hharmless : ∀ o ∈ [failed], o.severity ≠ some .fatal := by
          simpa [← hfailed] using StepOutcome.failed_harmless transferStep hnotFatal
        have hnot :
            ∀ e', (.error e : Except HarnessError Unit) = .error e' → e'.isFatal = false := by
          rintro e' ⟨⟩
          exact hnotFatal
        exact ⟨⟨Context.moves_record _ _, hharmless, hnot⟩,
          ⟨(Context.moves_setOwner _ _ _).trans (Context.moves_record _ _), hharmless, hnot⟩⟩
      have hname : transferStep ∈ [failed].map (·.step) := by simp [← hfailed]
      split
      · refine ensures_bind (ensures_modifyContext ?_)
        rw [continue_ok]
        refine ensures_bind (ensures_record ?_)
        rw [continue_ok]
        exact ensures_throw ⟨hsends, _, hrecord.2, hname⟩
      · refine ensures_bind (ensures_record ?_)
        rw [continue_ok]
        exact ensures_throw ⟨hsends, _, hrecord.1, hname⟩

/-- Every difference the audit finds is a reported mismatch. -/
theorem auditRecord_kind {token : TokenRecord} {owner : Except HarnessError Address}
    {uri : Except HarnessError String} : ∀ e ∈ auditRecord token owner uri,
      e.kind = .validationMismatch := by
  intro e he
  unfold auditRecord at he
  simp only [List.mem_append] at he
  rcases he with he | he <;> split at he <;> (try split at he) <;>
    simp only [List.mem_singleton, List.not_mem_nil] at he <;> subst he <;> rfl

theorem auditTokens_spec (s : Session σ) {d : DeploymentResult}
    (hd : s.context.deployment = some d) :
    Ensures (auditTokens c) (fun r s' => (∃ n, r = .ok n) ∧ c.Reaches s.client [] s'.client ∧
      s'.context.tokens = s.context.tokens ∧
      ∃ recorded, s.context.Moves s'.context [] recorded ∧
        (∀ o ∈ recorded, o.severity ≠ some .fatal) ∧ auditStep ∈ recorded.map (·.step)) s := by
  unfold auditTokens
  refine ensures_bind (ensures_context ?_)
  rw [continue_ok]
  simp only [Context.contract, hd]
  refine ensures_bind (ensures_context ?_)
  rw [continue_ok]
  refine Ensures.bind (ensures_forIn (fun _ found s' => s'.context = s.context ∧
    c.Reaches s.client [] s'.client ∧ ∀ e ∈ found, e.kind = .validationMismatch) ?_
    ⟨rfl, Client.Reaches.refl _, by simp⟩) ?_
  · rintro pre token rest found ⟨c₁, ctx₁⟩ - ⟨hctx, hreach, hfound⟩
    dsimp only at hctx hreach
    subst hctx
    refine Ensures.bind (readSingle_spec c _ _ _ _
      (by exact (by decide : ownerOfSignature ≠ validateL3ChainSignature))) ?_
    rintro _ ⟨c₂, ctx₂⟩ ⟨hctx₂, hreach₂, owner, rfl, -⟩
    dsimp only at hctx₂ hreach₂
    subst hctx₂
    rw [continue_ok]
    refine Ensures.bind (readSingle_spec c _ _ _ _
      (by exact (by decide : tokenUriSignature ≠ validateL3ChainSignature))) ?_
    rintro _ ⟨c₃, ctx₃⟩ ⟨hctx₃, hreach₃, uri, rfl, -⟩
    dsimp only at hctx₃ hreach₃
    subst hctx₃
    rw [continue_ok]
    refine ensures_bind (ensures_emit ?_)
    rw [continue_ok]
    refine ensures_pure ⟨_, rfl, rfl, (hreach.trans hreach₂).trans hreach₃, ?_⟩
    intro e he
    rcases List.mem_append.mp he with he | he
    · exact hfound e he
    · exact auditRecord_kind e he
  · rintro _ ⟨c₁, ctx₁⟩ ⟨mismatches, rfl, hctx, hreach, hkinds⟩
    dsimp only at hctx hreach
    subst hctx
    rw [continue_ok]
    split
    · refine ensures_bind (ensures_emit ?_)
      rw [continue_ok]
      refine ensures_bind (ensures_record ?_)
      rw [continue_ok]
      exact ensures_pure ⟨⟨_, rfl⟩, hreach, rfl, _, Context.moves_record _ _, by simp, by simp⟩
    · rename_i hsome
      refine Ensures.bind (ensures_forIn (fun done _ s' => s'.client = c₁ ∧
        s'.context.tokens = s.context.tokens ∧
        s.context.Moves s'.context [] (done.map (StepOutcome.failed auditStep))) ?_
        ⟨rfl, rfl, Context.Moves.refl _⟩) ?_
      · rintro pre e rest u ⟨c₂, ctx₂⟩ - ⟨rfl, htokens, hmoves⟩
        refine ensures_bind (ensures_emit ?_)
        rw [continue_ok]
        refine ensures_bind (ensures_record ?_)
        rw [continue_ok]
        refine ensures_pure ⟨_, rfl, rfl, htokens, ?_⟩
        rw [List.map_append]
        exact hmoves.trans (Context.moves_record _ _)
      · rintro _ ⟨c₂, ctx₂⟩ ⟨u, rfl, rfl, htokens, hmoves⟩
        rw [continue_ok]
        refine ensures_pure ⟨⟨_, rfl⟩, hreach, htokens, _, hmoves, ?_, ?_⟩
        · intro o ho
          obtain ⟨e, he, rfl⟩ := List.mem_map.mp ho
          simp [hkinds e he, ErrorKind.severity]
        · obtain ⟨e, rest, rfl⟩ := List.exists_cons_of_ne_nil (by simpa using hsome)
          simp

end NftProbe.Run
