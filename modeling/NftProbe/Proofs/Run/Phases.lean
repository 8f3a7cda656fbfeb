import NftProbe.Proofs.Run.Gates
import NftProbe.Proofs.Run.Transfer
import NftProbe.Proofs.Run.Validation

/-!
# The phases of the test workflow after its deployment

Once the chain is verified, the test workflow mints, transfers and validates, one phase each.
Every step of the minting and transferring phases is tolerated, and none of them raises a fatal
error, so both phases always go on: they enter their phase, record at least one outcome per
step, none of them fatal, and make exactly the calls their answers call for. The minting phase
sends the single mint and, when its lists pass, the batch; the tokens it records are those the
answers report (`afterSingleMint`, `afterBatchMint`). The transferring phase sends the transfer
of the single token from its recorded owner, when there is one. The validating phase ends the
run: completed when the last chain check passes, failed with that check's outcome last when it
does not.
-/

set_option autoImplicit false

namespace NftProbe.Run

open StepM Contract

/-- The id a single mint's answer reports for its recipient, as the single mint checks it. -/
def singleId (answer : Except ClientError TxOutcome) (contract recipient : Address) : Option Nat :=
  match mintedIds answer contract [recipient] with
  | some [tokenId] => some tokenId
  | _ => none

theorem singleId_eq_some {answer : Except ClientError TxOutcome} {contract recipient : Address}
    {tokenId : Nat} (h : mintedIds answer contract [recipient] = some [tokenId]) :
    singleId answer contract recipient = some tokenId := by
  simp [singleId, h]

theorem singleId_eq_none {answer : Except ClientError TxOutcome} {contract recipient : Address}
    (h : ∀ tokenId, mintedIds answer contract [recipient] ≠ some [tokenId]) :
    singleId answer contract recipient = none := by
  unfold singleId
  split
  · rename_i tokenId htoken
    exact absurd htoken (h tokenId)
  · rfl

/-- The tokens recorded after a single mint to `recipient`. -/
def afterSingleMint (tokens : Table Nat TokenRecord) (uri : String) (contract recipient : Address)
    (answer : Except ClientError TxOutcome) : Table Nat TokenRecord :=
  match singleId answer contract recipient with
  | some tokenId => tokens.insert tokenId { tokenId, owner := recipient, uri }
  | none => tokens

/-- The tokens recorded after a batch mint, which mints only when its lists pass. -/
def afterBatchMint (tokens : Table Nat TokenRecord) (recipients : List Address)
    (uris : List String) (contract : Address) (answer : Except ClientError TxOutcome) :
    Table Nat TokenRecord :=
  match checkBatchArguments recipients uris, mintedIds answer contract recipients with
  | .ok (), some ids => recordBatch tokens ids recipients uris
  | _, _ => tokens

/-- The transaction of a batch mint, when its lists pass. -/
def batchSends (minter contract : Address) (recipients : List Address) (uris : List String)
    (answer : Except ClientError TxOutcome) : List Exchange :=
  match checkBatchArguments recipients uris with
  | .ok () => [.send minter contract (batchMint recipients uris) answer]
  | .error _ => []

/-- The transaction of the transferring phase: the transfer of the single token from its owner in
`tokens`, when the single mint gave one. -/
def singleTransferSends (tokens : Table Nat TokenRecord) (contract : Address)
    (single : Option Nat) (sender recipient : Address) (answer : Except ClientError TxOutcome) :
    List Exchange :=
  match single with
  | some tokenId => transferSends tokens contract tokenId sender recipient answer
  | none => []

namespace Orchestrator

variable {σ : Type} (o : Orchestrator σ)

theorem mintPhase_spec (deployer user1 user2 : Address) (s : Session σ) {d : DeploymentResult}
    (hphase : s.context.phase = .chainVerified) (hd : s.context.deployment = some d) :
    Ensures (o.mintPhase deployer user1 user2) (fun r s' => ∃ single batch recorded,
      o.client.Reaches s.client
        (.send deployer d.contractAddress (safeMint user1 o.demoMints.singleUri) single ::
          batchSends deployer d.contractAddress [user1, user2, deployer] o.demoMints.batchUris
            batch) s'.client ∧
      r = .ok (singleId single d.contractAddress user1) ∧
      s'.context.tokens = afterBatchMint
        (afterSingleMint s.context.tokens o.demoMints.singleUri d.contractAddress user1 single)
        [user1, user2, deployer] o.demoMints.batchUris d.contractAddress batch ∧
      s.context.Moves s'.context [.minting] recorded ∧ Harmless recorded ∧
      Ran [baselineStep, mintOneStep, mintBatchStep, supplyCheckStep] recorded) s := by
  unfold mintPhase
  dsimp only
  have hallowed : s.context.phase.canTransition .minting = true := by
    rw [hphase]
    rfl
  refine ensures_bind (ensures_transition (fun moved hmove => ?_)
    (fun e he => by simp [Context.transition, hallowed] at he))
  rw [continue_ok]
  have hmoves₀ := Context.moves_transition hmove
  have hmutable : moved.phase.allowsMutations = true := by
    rw [hmoves₀.phase]
    rfl
  have hd₀ : moved.deployment = some d := hmoves₀.deployment.trans hd
  refine ensures_bind (ensures_emit ?_)
  rw [continue_ok]
  refine Ensures.bind (Ensures.map (ensures_tolerated (P := fun _ s' =>
      o.client.Reaches s.client [] s'.client ∧ s'.context.tokens = moved.tokens ∧
      ∃ recorded, moved.Moves s'.context [] recorded ∧ Harmless recorded ∧
        Ran [baselineStep] recorded)
    (readBaselineSupply_spec o.client ⟨s.client, moved⟩ hd₀) ?_)) ?_
  · rintro r ⟨c₁, ctx₁⟩ ⟨hreach, htokens, recorded, htolerated, hname⟩
    exact ⟨htolerated.notFatal, hreach, htokens, recorded, htolerated.moves, htolerated.harmless,
      ran_singleton.2 hname⟩
  rintro _ ⟨c₁, ctx₁⟩ ⟨_, rfl, _, rfl, hreach₁, htokens₁, recorded₁, hmoves₁, hharmless₁, hran₁⟩
  dsimp only at hreach₁ htokens₁ hmoves₁
  rw [Except.map_ok, continue_ok]
  refine Ensures.bind (ensures_tolerated (P := fun single s' => ∃ answer,
      o.client.Reaches c₁ [.send deployer d.contractAddress (safeMint user1 o.demoMints.singleUri)
        answer] s'.client ∧ single = singleId answer d.contractAddress user1 ∧
      s'.context.tokens = afterSingleMint ctx₁.tokens o.demoMints.singleUri d.contractAddress user1
        answer ∧
      ∃ recorded, ctx₁.Moves s'.context [] recorded ∧ Harmless recorded ∧
        Ran [mintOneStep] recorded)
    (mintOne_spec o.client deployer user1 o.demoMints.singleUri ⟨c₁, ctx₁⟩
      (by rw [hmoves₁.phase_eq]; exact hmutable) (hmoves₁.deployment.trans hd₀)) ?_) ?_
  · rintro r ⟨c₂, ctx₂⟩ ⟨answer, recorded, hreach, htolerated, hname, hr⟩
    have hsingle : r.toOption = singleId answer d.contractAddress user1 ∧
        ctx₂.tokens = afterSingleMint ctx₁.tokens o.demoMints.singleUri d.contractAddress user1
          answer := by
      cases r with
      | ok tokenId =>
        obtain ⟨hids, htokens⟩ := hr
        rw [afterSingleMint, singleId_eq_some hids]
        exact ⟨rfl, htokens⟩
      | error e =>
        obtain ⟨hids, htokens⟩ := hr
        rw [afterSingleMint, singleId_eq_none hids]
        exact ⟨rfl, htokens⟩
    exact ⟨htolerated.notFatal, answer, hreach, hsingle.1, hsingle.2, recorded, htolerated.moves,
      htolerated.harmless, ran_singleton.2 hname⟩
  rintro _ ⟨c₂, ctx₂⟩ ⟨single, rfl, answer₁, hreach₂, rfl, htokens₂, recorded₂, hmoves₂, hharmless₂,
    hran₂⟩
  dsimp only at hreach₂ htokens₂ hmoves₂
  rw [continue_ok]
  refine Ensures.bind (Ensures.map (ensures_tolerated (P := fun _ s' => ∃ answer,
      o.client.Reaches c₂ (batchSends deployer d.contractAddress [user1, user2, deployer]
        o.demoMints.batchUris answer) s'.client ∧
      s'.context.tokens = afterBatchMint ctx₂.tokens [user1, user2, deployer] o.demoMints.batchUris
        d.contractAddress answer ∧
      ∃ recorded, ctx₂.Moves s'.context [] recorded ∧ Harmless recorded ∧
        Ran [mintBatchStep] recorded)
    (mintBatch_spec o.client deployer [user1, user2, deployer] o.demoMints.batchUris ⟨c₂, ctx₂⟩
      (by rw [hmoves₂.phase_eq, hmoves₁.phase_eq]; exact hmutable)
      ((hmoves₂.deployment.trans hmoves₁.deployment).trans hd₀)) ?_)) ?_
  · rintro r ⟨c₃, ctx₃⟩ ⟨sent, recorded, hreach, htolerated, hname, hsent⟩
    refine ⟨htolerated.notFatal, ?_⟩
    have hrest : ∃ recorded, ctx₂.Moves ctx₃ [] recorded ∧ Harmless recorded ∧
        Ran [mintBatchStep] recorded :=
      ⟨recorded, htolerated.moves, htolerated.harmless, ran_singleton.2 hname⟩
    dsimp only at hsent hreach
    cases hargs : checkBatchArguments [user1, user2, deployer] o.demoMints.batchUris with
    | error e =>
      rw [hargs] at hsent
      obtain ⟨rfl, htokens⟩ := hsent
      refine ⟨.error (.transport ""), ?_, ?_, hrest⟩
      · simpa [batchSends, hargs] using hreach
      · simp [afterBatchMint, hargs, htokens]
    | ok u =>
      rw [hargs] at hsent
      obtain ⟨answer, rfl, hr⟩ := hsent
      refine ⟨answer, by simpa [batchSends, hargs] using hreach, ?_, hrest⟩
      cases r with
      | ok ids =>
        obtain ⟨hids, htokens⟩ := hr
        simp [afterBatchMint, hargs, hids, htokens]
      | error e =>
        obtain ⟨hids, htokens⟩ := hr
        simp [afterBatchMint, hargs, hids, htokens]
  rintro _ ⟨c₃, ctx₃⟩ ⟨_, rfl, _, rfl, batch, hreach₃, htokens₃, recorded₃, hmoves₃, hharmless₃,
    hran₃⟩
  dsimp only at hreach₃ htokens₃ hmoves₃
  rw [Except.map_ok, continue_ok]
  refine Ensures.bind (Ensures.map (ensures_tolerated (P := fun _ s' =>
      o.client.Reaches c₃ [] s'.client ∧ s'.context.tokens = ctx₃.tokens ∧
      ∃ recorded, ctx₃.Moves s'.context [] recorded ∧ Harmless recorded ∧
        Ran [supplyCheckStep] recorded)
    (checkSupply_spec o.client ⟨c₃, ctx₃⟩
      (((hmoves₃.deployment.trans hmoves₂.deployment).trans hmoves₁.deployment).trans hd₀)) ?_)) ?_
  · rintro r ⟨c₄, ctx₄⟩ ⟨hreach, htokens, recorded, htolerated, hname⟩
    exact ⟨htolerated.notFatal, hreach, htokens, recorded, htolerated.moves, htolerated.harmless,
      ran_singleton.2 hname⟩
  rintro _ ⟨c₄, ctx₄⟩ ⟨_, rfl, _, rfl, hreach₄, htokens₄, recorded₄, hmoves₄, hharmless₄, hran₄⟩
  dsimp only at hreach₄ htokens₄ hmoves₄
  rw [Except.map_ok, continue_ok]
  have hmoves := (((hmoves₀.trans hmoves₁).trans hmoves₂).trans hmoves₃).trans hmoves₄
  simp only [List.append_nil, List.nil_append] at hmoves
  refine ensures_pure ⟨answer₁, batch, _, ?_, rfl, ?_, hmoves,
    ((hharmless₁.append hharmless₂).append hharmless₃).append hharmless₄,
    ((hran₁.append hran₂).append hran₃).append hran₄⟩
  · simpa using ((hreach₁.trans hreach₂).trans hreach₃).trans hreach₄
  · rw [htokens₄, htokens₃, htokens₂, htokens₁, Context.transition_tokens hmove]

theorem transferPhase_spec (single : Option Nat) (user1 user2 : Address) (s : Session σ)
    {d : DeploymentResult} (hphase : s.context.phase = .minting)
    (hd : s.context.deployment = some d) :
    Ensures (o.transferPhase single user1 user2) (fun r s' => ∃ answer recorded,
      o.client.Reaches s.client
        (singleTransferSends s.context.tokens d.contractAddress single user1 user2 answer)
        s'.client ∧
      r = .ok () ∧ s.context.Moves s'.context [.transferring] recorded ∧ Harmless recorded ∧
      Ran [transferStep, auditStep] recorded) s := by
  unfold transferPhase
  dsimp only
  have hallowed : s.context.phase.canTransition .transferring = true := by
    rw [hphase]
    rfl
  refine ensures_bind (ensures_transition (fun moved hmove => ?_)
    (fun e he => by simp [Context.transition, hallowed] at he))
  rw [continue_ok]
  have hmoves₀ := Context.moves_transition hmove
  have hd₀ : moved.deployment = some d := hmoves₀.deployment.trans hd
  refine ensures_bind (ensures_emit ?_)
  rw [continue_ok]
  have haudit : ∀ (sent : List Exchange) (c₁ : σ) (ctx₁ : Context) (recorded : List StepOutcome),
      o.client.Reaches s.client sent c₁ → s.context.Moves ctx₁ [.transferring] recorded →
      Harmless recorded → Ran [transferStep] recorded →
      Ensures (discard (auditTokens o.client)) (fun r s' =>
        ∃ recorded, o.client.Reaches s.client sent s'.client ∧ r = .ok () ∧
          s.context.Moves s'.context [.transferring] recorded ∧ Harmless recorded ∧
          Ran [transferStep, auditStep] recorded) ⟨c₁, ctx₁⟩ := by
    intro sent c₁ ctx₁ recorded hreach hmoves hharmless hran
    refine (Ensures.map (auditTokens_spec o.client ⟨c₁, ctx₁⟩ (hmoves.deployment.trans hd))).mono ?_
    rintro _ s' ⟨_, rfl, ⟨n, rfl⟩, hquiet, -, audited, haudited, hharmless', hname⟩
    refine ⟨recorded ++ audited, by simpa using hreach.trans hquiet, rfl, ?_,
      hharmless.append hharmless', hran.append (ran_singleton.2 hname)⟩
    simpa using hmoves.trans haudited
  cases single with
  | none =>
    refine ensures_bind (ensures_record ?_)
    rw [continue_ok]
    refine Ensures.mono (haudit [] s.client _ _ (Client.Reaches.refl _)
      (hmoves₀.trans (Context.moves_record _ _)) ?_ (ran_singleton.2 (by simp))) ?_
    · intro o' ho'
      simp at ho'
      simp [ho']
    · rintro r s' ⟨recorded, hreach, hr, hrest⟩
      exact ⟨.error (.transport ""), recorded, hreach, hr, hrest⟩
  | some tokenId =>
    refine Ensures.bind (Ensures.map (ensures_tolerated (P := fun _ s' => ∃ answer,
        o.client.Reaches s.client
          (transferSends s.context.tokens d.contractAddress tokenId user1 user2 answer) s'.client ∧
        ∃ recorded, moved.Moves s'.context [] recorded ∧ Harmless recorded ∧
          Ran [transferStep] recorded)
      (transferToken_spec o.client tokenId user1 user2 ⟨s.client, moved⟩
        (by rw [hmoves₀.phase]; rfl) hd₀) ?_)) ?_
    · rintro r ⟨c₁, ctx₁⟩ ⟨⟨answer, hreach⟩, recorded, htolerated, hname⟩
      refine ⟨htolerated.notFatal, answer, ?_, recorded, htolerated.moves, htolerated.harmless,
        ran_singleton.2 hname⟩
      rw [← Context.transition_tokens hmove]
      exact hreach
    rintro _ ⟨c₁, ctx₁⟩ ⟨_, rfl, _, rfl, answer, hreach₁, recorded₁, hmoves₁, hharmless₁, hran₁⟩
    dsimp only at hreach₁ hmoves₁
    rw [Except.map_ok, continue_ok]
    refine (haudit _ c₁ ctx₁ recorded₁ hreach₁ (by simpa using hmoves₀.trans hmoves₁) hharmless₁
      hran₁).mono ?_
    rintro r s' ⟨recorded, hreach, hr, hrest⟩
    exact ⟨answer, recorded, hreach, hr, hrest⟩

theorem validatePhase_spec (s : Session σ) {d : DeploymentResult}
    (hphase : s.context.phase = .transferring) (hd : s.context.deployment = some d) :
    Ensures o.validatePhase (fun r s' => ∃ snapshot view recorded,
      o.client.Reaches s.client (chainReads (some d.contractAddress) snapshot view) s'.client ∧
      match r with
      | .ok _ => chainAgrees o.expectations.chainId (some d.contractAddress) snapshot view = true ∧
          s.context.Moves s'.context [.validating, .completed] recorded ∧ Harmless recorded ∧
          Ran [chainCheckStep postSequence] recorded
      | .error e =>
          chainAgrees o.expectations.chainId (some d.contractAddress) snapshot view = false ∧
          EndsWithFailure (chainCheckStep postSequence) e recorded ∧
          s.context.Moves s'.context [.validating] recorded) s := by
  unfold validatePhase
  have hallowed : s.context.phase.canTransition .validating = true := by
    rw [hphase]
    rfl
  refine ensures_bind (ensures_transition (fun moved hmove => ?_)
    (fun e he => by simp [Context.transition, hallowed] at he))
  rw [continue_ok]
  have hmoves₀ := Context.moves_transition hmove
  have hd₀ : moved.deployment = some d := hmoves₀.deployment.trans hd
  refine ensures_bind (ensures_emit ?_)
  rw [continue_ok]
  refine Ensures.bind (Ensures.map (checkL3_spec o.client o.expectations postSequence
    ⟨s.client, moved⟩)) ?_
  rintro _ ⟨c₁, ctx₁⟩ ⟨r₀, rfl, snapshot, view, recorded₁, hreach₁, hmoves₁, -, hverdict₁⟩
  dsimp only at hreach₁ hmoves₁ hverdict₁
  rw [hd₀] at hreach₁ hverdict₁
  cases r₀ with
  | error e =>
    obtain ⟨hfails, hlast⟩ := hverdict₁.fails_of_error
    exact ⟨snapshot, view, recorded₁, hreach₁, hfails, hlast, by simpa using hmoves₀.trans hmoves₁⟩
  | ok snapshot₁ =>
    obtain ⟨hpasses, hran₁, hharmless₁⟩ := hverdict₁.passes_of_ok
    rw [Except.map_ok, continue_ok]
    refine Ensures.bind (Ensures.map (ensures_tolerated (P := fun _ s' =>
        o.client.Reaches c₁ [] s'.client ∧
        ∃ recorded, ctx₁.Moves s'.context [] recorded ∧ Harmless recorded)
      (validateMetadata_spec o.client o.expectations ⟨c₁, ctx₁⟩ (hmoves₁.deployment.trans hd₀))
      ?_)) ?_
    · rintro r ⟨c₂, ctx₂⟩ ⟨hreach, -, recorded, htolerated⟩
      exact ⟨htolerated.notFatal, hreach, recorded, htolerated.moves, htolerated.harmless⟩
    rintro _ ⟨c₂, ctx₂⟩ ⟨_, rfl, _, rfl, hreach₂, recorded₂, hmoves₂, hharmless₂⟩
    dsimp only at hreach₂ hmoves₂
    rw [Except.map_ok, continue_ok]
    have hallowed₂ : ctx₂.phase.canTransition .completed = true := by
      rw [hmoves₂.phase_eq, hmoves₁.phase_eq, hmoves₀.phase]
      rfl
    refine ensures_transition (fun done hdone => ?_)
      (fun e he => by simp [Context.transition, hallowed₂] at he)
    refine ⟨snapshot, view, recorded₁ ++ recorded₂, by simpa using hreach₁.trans hreach₂, hpasses,
      ?_, hharmless₁.append hharmless₂, hran₁.extend recorded₂⟩
    simpa using ((hmoves₀.trans hmoves₁).trans hmoves₂).trans (Context.moves_transition hdone)

end Orchestrator

end NftProbe.Run
