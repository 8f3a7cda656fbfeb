import NftProbe.Proofs.Run.Deploy
import NftProbe.Run.Mint

/-!
# Minting and the supply

A mint sends one transaction from the admin and counts only when it was included, did not
revert, and its mint events match the recipients one to one, in order, with token ids that
follow each other. `mintEvents` and `mintedIds` read that off the client's answer, so the mint
steps' specs can say what the run records in terms of what the client said: the single mint
returns a token exactly when `mintedIds` finds one, and the batch records exactly the ids it
finds, each to its recipient (`recordBatch`).

Every step here is tolerated by the test workflow: none enters a phase, none records a fatal
outcome or raises a fatal error (`Tolerated`), and each records an outcome under its own name.
A mint makes its one transaction only in a phase that may change the chain; the supply steps
make only plain reads.
-/

set_option autoImplicit false

namespace NftProbe.Run

open StepM Contract

/-! ### Checked mint events -/

@[simp] theorem except_pure {ε γ : Type} (a : γ) : (pure a : Except ε γ) = .ok a := rfl

@[simp] theorem except_bind_ok {ε γ δ : Type} (a : γ) (f : γ → Except ε δ) :
    (Except.ok a >>= f) = f a := rfl

@[simp] theorem except_bind_error {ε γ δ : Type} (e : ε) (f : γ → Except ε δ) :
    (Except.error e >>= f) = .error e := rfl

theorem except_bind_eq_ok {ε γ δ : Type} {x : Except ε γ} {f : γ → Except ε δ} {b : δ}
    (h : x >>= f = .ok b) : ∃ a, x = .ok a ∧ f a = .ok b := by
  cases x with
  | error e => cases h
  | ok a => exact ⟨a, rfl, h⟩

/-- The mint events a transaction's answer reports for the contract: `none` unless it was
included, did not revert, and its logs decode. -/
def mintEvents (answer : Except ClientError TxOutcome) (contract : Address) :
    Option (List TransferEvent) :=
  match answer with
  | .ok outcome => match successfulReceipt outcome with
    | .ok receipt => match TransferEvent.collect receipt contract with
      | .ok events => some (events.filter TransferEvent.isMint)
      | .error _ => none
    | .error _ => none
  | .error _ => none

/-- The token ids a mint's answer reports for the recipients, checked as the mint steps check
them; `none` when a check fails. -/
def mintedIds (answer : Except ClientError TxOutcome) (contract : Address)
    (recipients : List Address) : Option (List Nat) :=
  (mintEvents answer contract).bind fun events =>
    match (verifyMinted events recipients).run with
    | .ok (.ok ids) => some ids
    | _ => none

/-- What checking mint events against recipients finds: the events' token ids, or a failed
mint. -/
def MintCheck (pairs : List (TransferEvent × Address)) : Except HarnessError (List Nat) → Prop
  | .ok ids => ids = pairs.map (·.1.tokenId)
  | .error e => e.kind = .mintFailed

theorem mintCheck_cons {event : TransferEvent} {recipient : Address}
    {rest : List (TransferEvent × Address)} {r : Except HarnessError (List Nat)}
    (h : MintCheck rest r) :
    MintCheck ((event, recipient) :: rest) (r.map (List.cons event.tokenId)) := by
  cases r with
  | error e => exact h
  | ok ids =>
    show event.tokenId :: ids = _
    rw [show ids = rest.map (·.1.tokenId) from h]
    rfl

theorem verifyMintedFrom_run {position : Nat} {previous : Option Nat}
    {pairs : List (TransferEvent × Address)} {r : Except HarnessError (List Nat)}
    (h : (verifyMintedFrom position previous pairs).run = .ok r) : MintCheck pairs r := by
  induction pairs generalizing position previous r with
  | nil =>
    cases h
    rfl
  | cons pair rest ih =>
    obtain ⟨event, recipient⟩ := pair
    simp only [verifyMintedFrom] at h
    split at h
    · simp [ExceptT.run_throw] at h
      subst h
      rfl
    · cases previous with
      | none =>
        rcases hrest : (verifyMintedFrom (position + 1) (some event.tokenId) rest).run with
          _ | r' <;> simp [hrest] at h
        subst h
        exact mintCheck_cons (ih hrest)
      | some previous =>
        cases hnext : U64.checkedAdd previous 1 with
        | error overflow => simp [ExceptT.run_bind, hnext] at h
        | ok next =>
          by_cases hid : event.tokenId = next
          · subst hid
            rcases hrest : (verifyMintedFrom (position + 1) (some event.tokenId) rest).run with
              _ | r' <;> simp [ExceptT.run_bind, hnext, hrest] at h
            subst h
            exact mintCheck_cons (ih hrest)
          · simp [ExceptT.run_bind, hnext, hid] at h
            subst h
            rfl

theorem verifyMinted_run {events : List TransferEvent} {recipients : List Address}
    {r : Except HarnessError (List Nat)} (h : (verifyMinted events recipients).run = .ok r) :
    match r with
    | .ok ids => ids = events.map (·.tokenId) ∧ events.length = recipients.length
    | .error e => e.kind = .mintFailed := by
  unfold verifyMinted at h
  split at h
  · simp [ExceptT.run_throw] at h
    subst h
    rfl
  · rename_i hlength
    have hcheck := verifyMintedFrom_run h
    cases r with
    | error e => exact hcheck
    | ok ids =>
      have hlength : events.length = recipients.length := Decidable.of_not_not hlength
      refine ⟨?_, hlength⟩
      calc ids = (events.zip recipients).map (·.1.tokenId) := hcheck
        _ = ((events.zip recipients).map Prod.fst).map (·.tokenId) := by rw [List.map_map]; rfl
        _ = events.map (·.tokenId) := by rw [List.map_fst_zip (Nat.le_of_eq hlength)]

theorem checkBatchArguments_notFatal {recipients : List Address} {uris : List String}
    {e : HarnessError} (h : checkBatchArguments recipients uris = .error e) :
    e.isFatal = false := by
  unfold checkBatchArguments at h
  split at h
  · cases h
    rfl
  · split at h <;> cases h
    rfl

/-- The token table with a batch's tokens recorded, each to its recipient with its URI, in
order. -/
def recordBatch (tokens : Table Nat TokenRecord) (ids : List Nat) (recipients : List Address)
    (uris : List String) : Table Nat TokenRecord :=
  ((ids.zip recipients).zip uris).foldl
    (fun tokens entry =>
      tokens.insert entry.1.1 { tokenId := entry.1.1, owner := entry.1.2, uri := entry.2 })
    tokens

variable {σ : Type} (c : Client σ)

theorem ensures_checking {γ : Type} {check : ExceptT HarnessError (Except Overflow) γ}
    {s : Session σ} {post : Except HarnessError γ → Session σ → Prop}
    (h : ∀ r, check.run = .ok r → post r s) : Ensures (checking check) post s :=
  ensures_bind (ensures_checked fun r hr => ensures_fromResult (h r hr))

/-- The loop that records a batch's tokens, one `addToken` per entry. -/
theorem ensures_recordBatch (ids : List Nat) (recipients : List Address) (uris : List String)
    {s : Session σ} {post : Except HarnessError PUnit → Session σ → Prop}
    (h : post (.ok PUnit.unit) { s with context := { s.context with
      tokens := recordBatch s.context.tokens ids recipients uris } }) :
    Ensures (forIn ((ids.zip recipients).zip uris) PUnit.unit fun x _ =>
      match x with
      | ((tokenId, owner), uri) => do
        modifyContext fun x => x.addToken { tokenId := tokenId, owner := owner, uri := uri }
        pure (ForInStep.yield PUnit.unit)) post s := by
  unfold recordBatch at h
  generalize (ids.zip recipients).zip uris = entries at h ⊢
  induction entries generalizing s with
  | nil => exact ensures_pure h
  | cons entry rest ih =>
    obtain ⟨⟨tokenId, owner⟩, uri⟩ := entry
    rw [List.forIn_cons]
    refine ensures_bind (ensures_bind (ensures_modifyContext ?_))
    rw [continue_ok]
    refine ensures_pure ?_
    rw [continue_ok]
    exact ih h

/-! ### The supply -/

theorem readTotalSupply_spec (s : Session σ) {d : DeploymentResult}
    (hd : s.context.deployment = some d) :
    Ensures (readTotalSupply c) (fun r s' => s'.context = s.context ∧
      c.Reaches s.client [] s'.client ∧ ∀ e, r = .error e → e.kind = .clientFailure) s := by
  unfold readTotalSupply
  refine ensures_bind (ensures_contract ?_)
  simp only [Context.contract, hd, continue_ok]
  refine ensures_bind (ensures_call fun answer c₁ hanswer => ?_)
  rw [continue_ok]
  have hquiet : c.Reaches s.client [] c₁ :=
    Client.Reaches.quiet (e := .read d.contractAddress totalSupply answer) hanswer
      (Exchange.isMilestone_read (by decide))
  cases answer with
  | error err =>
    refine ensures_bind (ensures_throw ?_)
    rw [continue_error]
    exact ⟨rfl, hquiet, fun e he => by cases he; rfl⟩
  | ok tokens =>
    refine ensures_bind (ensures_pure ?_)
    rw [continue_ok]
    refine ensures_fromResult ⟨rfl, hquiet, fun e he => ?_⟩
    cases hsupply : single tokens >>= Abi.Token.asU64 with
    | ok supply => simp [hsupply, Except.mapError] at he
    | error abiError =>
      simp only [hsupply, Except.mapError, Except.error.injEq] at he
      subst he
      rfl

theorem readBaselineSupply_spec (s : Session σ) {d : DeploymentResult}
    (hd : s.context.deployment = some d) :
    Ensures (readBaselineSupply c) (fun r s' => c.Reaches s.client [] s'.client ∧
      s'.context.tokens = s.context.tokens ∧
      ∃ recorded, Tolerated s.context s'.context recorded r ∧
        baselineStep ∈ recorded.map (·.step)) s := by
  unfold readBaselineSupply
  refine ensures_tryCatch (Ensures.bind (readTotalSupply_spec c s hd) ?_)
  rintro r ⟨c₁, ctx₁⟩ ⟨hctx, hquiet, hkind⟩
  dsimp only at hctx hquiet
  subst hctx
  cases r with
  | ok supply =>
    rw [continue_ok]
    refine ensures_bind (ensures_modifyContext ?_)
    rw [continue_ok]
    refine ensures_bind (ensures_record ?_)
    rw [continue_ok]
    refine ensures_pure ⟨hquiet, rfl, _, ⟨(Context.moves_setBaselineSupply _ _).trans
      (Context.moves_record _ _), ?_, ?_⟩, by simp⟩
    · simp
    · rintro e ⟨⟩
  | error e =>
    have hnotFatal : e.isFatal = false := by
      simp [HarnessError.isFatal, ErrorKind.isFatal, hkind e rfl, ErrorKind.severity]
    rw [continue_error, handle_error]
    refine ensures_bind (ensures_record ?_)
    rw [continue_ok]
    refine ensures_throw ⟨hquiet, rfl, _, ⟨Context.moves_record _ _, ?_, ?_⟩, by simp⟩
    · simpa using StepOutcome.failed_harmless baselineStep hnotFatal
    · rintro e' ⟨⟩
      exact hnotFatal

theorem checkSupply_spec (s : Session σ) {d : DeploymentResult}
    (hd : s.context.deployment = some d) :
    Ensures (checkSupply c) (fun r s' => c.Reaches s.client [] s'.client ∧
      s'.context.tokens = s.context.tokens ∧
      ∃ recorded, Tolerated s.context s'.context recorded r ∧
        supplyCheckStep ∈ recorded.map (·.step)) s := by
  unfold checkSupply
  refine ensures_bind (ensures_context ?_)
  rw [continue_ok]
  refine ensures_bind (ensures_checked fun expected _ => ?_)
  rw [continue_ok]
  split
  · rename_i expected
    refine ensures_tryCatch_of (Q := fun r s' => c.Reaches s.client [] s'.client ∧
      match r with
      | .ok _ => ∃ o, s'.context = s.context.record o ∧ o.step = supplyCheckStep ∧ o.error = none
      | .error e => e.isFatal = false ∧ s'.context = s.context) ?_ ?_
    · refine Ensures.bind (readTotalSupply_spec c s hd) ?_
      rintro r ⟨c₁, ctx₁⟩ ⟨hctx, hquiet, hkind⟩
      dsimp only at hctx hquiet
      subst hctx
      cases r with
      | error e =>
        refine ⟨hquiet, ?_, rfl⟩
        simp [HarnessError.isFatal, ErrorKind.isFatal, hkind e rfl, ErrorKind.severity]
      | ok observed =>
        rw [continue_ok]
        split
        · refine ensures_bind (ensures_throw ⟨hquiet, rfl, rfl⟩)
        · refine ensures_bind (ensures_emit ?_)
          rw [continue_ok]
          refine ensures_bind (ensures_context ?_)
          rw [continue_ok]
          refine ensures_bind (ensures_record ?_)
          rw [continue_ok]
          exact ensures_pure ⟨hquiet, _, rfl, by simp, by simp⟩
    · rintro r ⟨c', ctx'⟩ ⟨hquiet, hr⟩
      cases r with
      | ok observed =>
        obtain ⟨o, hctx, hstep, herror⟩ := hr
        dsimp only at hctx
        subst hctx
        rw [handle_ok]
        refine ⟨hquiet, rfl, [o], ⟨Context.moves_record _ o, ?_, ?_⟩, by simp [hstep]⟩
        · simp [StepOutcome.severity_of_error_none herror]
        · rintro e ⟨⟩
      | error e =>
        obtain ⟨hnotFatal, hctx⟩ := hr
        dsimp only at hctx
        subst hctx
        rw [handle_error]
        refine ensures_bind (ensures_emit ?_)
        rw [continue_ok]
        refine ensures_bind (ensures_record ?_)
        rw [continue_ok]
        refine ensures_throw ⟨hquiet, rfl, _, ⟨Context.moves_record _ _, ?_, ?_⟩, by simp⟩
        · simpa using StepOutcome.failed_harmless supplyCheckStep hnotFatal
        · rintro e' ⟨⟩
          exact hnotFatal
  · refine ensures_bind (ensures_record ?_)
    rw [continue_ok]
    refine ensures_pure ⟨Client.Reaches.refl _, rfl, _, ⟨Context.moves_record _ _, ?_, ?_⟩, by simp⟩
    · simp
    · rintro e ⟨⟩

/-! ### The mints -/

/-- In a phase that may not change the chain the single mint sends nothing: it leaves the client
as it was and fails. -/
theorem mintOne_halted (minter recipient : Address) (uri : String) (s : Session σ)
    (hhalted : s.context.phase.allowsMutations = false) :
    Ensures (mintOne c minter recipient uri) (fun r s' =>
      s'.client = s.client ∧ ∃ e, r = .error e) s := by
  unfold mintOne submitMint
  refine ensures_tryCatch (ensures_bind (ensures_halted hhalted ?_))
  rw [continue_error, handle_error]
  refine ensures_bind (ensures_emit ?_)
  rw [continue_ok]
  refine ensures_bind (ensures_record ?_)
  rw [continue_ok]
  exact ensures_throw ⟨rfl, _, rfl⟩

/-- In a phase that may not change the chain the batch mint sends nothing either, whether its
lists are refused first or not. -/
theorem mintBatch_halted (minter : Address) (recipients : List Address) (uris : List String)
    (s : Session σ) (hhalted : s.context.phase.allowsMutations = false) :
    Ensures (mintBatch c minter recipients uris) (fun r s' =>
      s'.client = s.client ∧ ∃ e, r = .error e) s := by
  unfold mintBatch submitMint
  refine ensures_tryCatch_of (Q := fun r s' => s' = s ∧ ∃ e, r = .error e)
    (ensures_bind (ensures_fromResult ?_)) ?_
  · cases checkBatchArguments recipients uris with
    | error e => exact ⟨rfl, e, rfl⟩
    | ok u =>
      rw [continue_ok]
      exact ensures_bind (ensures_halted hhalted ⟨rfl, _, rfl⟩)
  · rintro r s' ⟨rfl, e, rfl⟩
    rw [handle_error]
    refine ensures_bind (ensures_emit ?_)
    rw [continue_ok]
    refine ensures_bind (ensures_record ?_)
    rw [continue_ok]
    exact ensures_throw ⟨rfl, _, rfl⟩

/-- A mint, in a phase that may change the chain, sends its one transaction and returns the
mint events of its answer. -/
theorem submitMint_spec (minter : Address) (mint : Abi.Call) (s : Session σ) {d : DeploymentResult}
    (hmutable : s.context.phase.allowsMutations = true) (hd : s.context.deployment = some d) :
    Ensures (submitMint c minter mint) (fun r s' => s'.context = s.context ∧
      ∃ answer, c.Reaches s.client [.send minter d.contractAddress mint answer] s'.client ∧
        match r with
        | .ok (_, events) => mintEvents answer d.contractAddress = some events
        | .error e => e.isFatal = false ∧ mintEvents answer d.contractAddress = none) s := by
  unfold submitMint
  refine ensures_bind (ensures_ensureMutable ?_)
  simp only [Context.ensureMutable, hmutable, if_true, continue_ok]
  refine ensures_bind (ensures_contract ?_)
  simp only [Context.contract, hd, continue_ok]
  refine ensures_bind (ensures_emit ?_)
  rw [continue_ok]
  refine ensures_bind (ensures_call fun answer c₁ hanswer => ?_)
  rw [continue_ok]
  have hsend : c.Reaches s.client [.send minter d.contractAddress mint answer] c₁ :=
    Client.Reaches.milestone (e := .send minter d.contractAddress mint answer) hanswer rfl
  cases answer with
  | error err =>
    refine ensures_bind (ensures_throw ?_)
    exact ⟨rfl, _, hsend, rfl, rfl⟩
  | ok outcome =>
    refine ensures_bind (ensures_pure ?_)
    rw [continue_ok]
    refine ensures_bind (ensures_fromResult ?_)
    cases hreceipt : successfulReceipt outcome with
    | error message => exact ⟨rfl, _, hsend, rfl, by simp [mintEvents, hreceipt]⟩
    | ok receipt =>
      simp only [Except.mapError, continue_ok]
      refine ensures_bind (ensures_fromResult ?_)
      cases hevents : TransferEvent.collect receipt d.contractAddress with
      | error abiError => exact ⟨rfl, _, hsend, rfl, by simp [mintEvents, hreceipt, hevents]⟩
      | ok events =>
        simp only [continue_ok]
        exact ensures_pure ⟨rfl, _, hsend, by simp [mintEvents, hreceipt, hevents]⟩

/-- The single mint returns a token exactly when the answer to its transaction reports one
for the recipient, and records it. -/
theorem mintOne_spec (minter recipient : Address) (uri : String) (s : Session σ)
    {d : DeploymentResult} (hmutable : s.context.phase.allowsMutations = true)
    (hd : s.context.deployment = some d) :
    Ensures (mintOne c minter recipient uri) (fun r s' =>
      ∃ answer recorded,
        c.Reaches s.client [.send minter d.contractAddress (safeMint recipient uri) answer]
          s'.client ∧
        Tolerated s.context s'.context recorded r ∧ mintOneStep ∈ recorded.map (·.step) ∧
        match r with
        | .ok tokenId => mintedIds answer d.contractAddress [recipient] = some [tokenId] ∧
            s'.context.tokens =
              s.context.tokens.insert tokenId { tokenId, owner := recipient, uri }
        | .error _ => (∀ tokenId, mintedIds answer d.contractAddress [recipient] ≠ some [tokenId]) ∧
            s'.context.tokens = s.context.tokens) s := by
  unfold mintOne
  refine ensures_tryCatch_of (Q := fun r s' => ∃ answer,
      c.Reaches s.client [.send minter d.contractAddress (safeMint recipient uri) answer]
        s'.client ∧
      match r with
      | .ok tokenId => mintedIds answer d.contractAddress [recipient] = some [tokenId] ∧
          ∃ o, s'.context = (s.context.addToken { tokenId, owner := recipient, uri }).record o ∧
            o.step = mintOneStep ∧ o.error = none
      | .error e => e.isFatal = false ∧
          (∀ tokenId, mintedIds answer d.contractAddress [recipient] ≠ some [tokenId]) ∧
          s'.context = s.context) ?_ ?_
  · refine Ensures.bind (submitMint_spec c minter _ s hmutable hd) ?_
    rintro r ⟨c₁, ctx₁⟩ ⟨hctx, answer, hsend, hresult⟩
    dsimp only at hctx hsend
    subst hctx
    cases r with
    | error e =>
      obtain ⟨hnotFatal, hnone⟩ := hresult
      exact ⟨answer, hsend, hnotFatal, fun tokenId => by simp [mintedIds, hnone], rfl⟩
    | ok pair =>
      obtain ⟨receipt, events⟩ := pair
      rw [continue_ok]
      refine ensures_bind (ensures_checking fun v hv => ?_)
      have hcheck := verifyMinted_run hv
      have hminted : mintedIds answer d.contractAddress [recipient] =
          match v with
          | .ok ids => some ids
          | .error _ => none := by
        cases v <;> simp [mintedIds, hresult, hv]
      cases v with
      | error e =>
        refine ⟨answer, hsend, ?_, fun tokenId => by simp [hminted], rfl⟩
        simp [HarnessError.isFatal, ErrorKind.isFatal, hcheck, ErrorKind.severity]
      | ok ids =>
        rw [continue_ok]
        obtain ⟨hids, hlength⟩ := hcheck
        obtain ⟨event, rfl⟩ := List.length_eq_one_iff.mp hlength
        simp only [List.map_cons, List.map_nil] at hids
        subst hids
        simp only [List.head?_cons]
        refine ensures_bind (ensures_modifyContext ?_)
        rw [continue_ok]
        refine ensures_bind (ensures_emit ?_)
        rw [continue_ok]
        refine ensures_bind (ensures_record ?_)
        rw [continue_ok]
        exact ensures_pure ⟨answer, hsend, hminted, _, rfl, by simp, by simp⟩
  · rintro r ⟨c', ctx'⟩ ⟨answer, hsend, hr⟩
    cases r with
    | ok tokenId =>
      obtain ⟨hminted, o, hctx, hstep, herror⟩ := hr
      dsimp only at hctx
      subst hctx
      rw [handle_ok]
      refine ⟨answer, [o], hsend, ⟨?_, ?_, ?_⟩, by simp [hstep], hminted, rfl⟩
      · exact (Context.moves_addToken _ _).trans (Context.moves_record _ _)
      · simp [StepOutcome.severity_of_error_none herror]
      · rintro e ⟨⟩
    | error e =>
      obtain ⟨hnotFatal, hnone, hctx⟩ := hr
      dsimp only at hctx
      subst hctx
      rw [handle_error]
      refine ensures_bind (ensures_emit ?_)
      rw [continue_ok]
      refine ensures_bind (ensures_record ?_)
      rw [continue_ok]
      refine ensures_throw
        ⟨answer, _, hsend, ⟨Context.moves_record _ _, ?_, ?_⟩, by simp, hnone, rfl⟩
      · simpa using StepOutcome.failed_harmless mintOneStep hnotFatal
      · rintro e' ⟨⟩
        exact hnotFatal

/-- The batch mint sends its transaction only for lists of one length, and records exactly the
tokens the answer reports. -/
theorem mintBatch_spec (minter : Address) (recipients : List Address) (uris : List String)
    (s : Session σ) {d : DeploymentResult} (hmutable : s.context.phase.allowsMutations = true)
    (hd : s.context.deployment = some d) :
    Ensures (mintBatch c minter recipients uris) (fun r s' =>
      ∃ sent recorded, c.Reaches s.client sent s'.client ∧
        Tolerated s.context s'.context recorded r ∧ mintBatchStep ∈ recorded.map (·.step) ∧
        match checkBatchArguments recipients uris with
        | .error _ => sent = [] ∧ s'.context.tokens = s.context.tokens
        | .ok () => ∃ answer,
            sent = [.send minter d.contractAddress (batchMint recipients uris) answer] ∧
            match r with
            | .ok ids => mintedIds answer d.contractAddress recipients = some ids ∧
                s'.context.tokens = recordBatch s.context.tokens ids recipients uris
            | .error _ => mintedIds answer d.contractAddress recipients = none ∧
                s'.context.tokens = s.context.tokens) s := by
  unfold mintBatch
  refine ensures_tryCatch_of (Q := fun r s' => ∃ sent, c.Reaches s.client sent s'.client ∧
      match r with
      | .ok ids => ∃ answer o, checkBatchArguments recipients uris = .ok () ∧
          sent = [.send minter d.contractAddress (batchMint recipients uris) answer] ∧
          mintedIds answer d.contractAddress recipients = some ids ∧
          s'.context = ({ s.context with
            tokens := recordBatch s.context.tokens ids recipients uris }).record o ∧
          o.step = mintBatchStep ∧ o.error = none
      | .error e => e.isFatal = false ∧ s'.context = s.context ∧
          match checkBatchArguments recipients uris with
          | .error _ => sent = []
          | .ok () => ∃ answer,
              sent = [.send minter d.contractAddress (batchMint recipients uris) answer] ∧
              mintedIds answer d.contractAddress recipients = none) ?_ ?_
  · refine ensures_bind (ensures_fromResult ?_)
    cases hargs : checkBatchArguments recipients uris with
    | error e =>
      exact ⟨[], Client.Reaches.refl _, checkBatchArguments_notFatal hargs, rfl, rfl⟩
    | ok u =>
      rw [continue_ok]
      refine Ensures.bind (submitMint_spec c minter _ s hmutable hd) ?_
      rintro r ⟨c₁, ctx₁⟩ ⟨hctx, answer, hsend, hresult⟩
      dsimp only at hctx hsend
      subst hctx
      cases r with
      | error e =>
        obtain ⟨hnotFatal, hnone⟩ := hresult
        exact ⟨_, hsend, hnotFatal, rfl, answer, rfl, by simp [mintedIds, hnone]⟩
      | ok pair =>
        obtain ⟨receipt, events⟩ := pair
        rw [continue_ok]
        refine ensures_bind (ensures_checking fun v hv => ?_)
        have hcheck := verifyMinted_run hv
        have hminted : mintedIds answer d.contractAddress recipients = v.toOption := by
          cases v <;> simp [mintedIds, hresult, hv, Except.toOption]
        cases v with
        | error e =>
          refine ⟨_, hsend, ?_, rfl, answer, rfl, by simp [hminted, Except.toOption]⟩
          simp [HarnessError.isFatal, ErrorKind.isFatal, hcheck, ErrorKind.severity]
        | ok ids =>
          rw [continue_ok]
          refine ensures_bind (ensures_recordBatch ids recipients uris ?_)
          rw [continue_ok]
          refine ensures_bind (ensures_emit ?_)
          rw [continue_ok]
          refine ensures_bind (ensures_record ?_)
          rw [continue_ok]
          exact ensures_pure ⟨_, hsend, answer, _, rfl, rfl, hminted, rfl, by simp, by simp⟩
  · rintro r ⟨c', ctx'⟩ ⟨sent, hreach, hr⟩
    cases r with
    | ok ids =>
      obtain ⟨answer, o, hargs, rfl, hminted, hctx, hstep, herror⟩ := hr
      dsimp only at hctx
      subst hctx
      rw [handle_ok]
      refine ⟨_, [o], hreach, ⟨?_, ?_, ?_⟩, by simp [hstep], ?_⟩
      · exact (Context.moves_setTokens _ _).trans (Context.moves_record _ o)
      · simp [StepOutcome.severity_of_error_none herror]
      · rintro e ⟨⟩
      · rw [hargs]
        exact ⟨answer, rfl, hminted, rfl⟩
    | error e =>
      obtain ⟨hnotFatal, hctx, hsent⟩ := hr
      dsimp only at hctx
      subst hctx
      rw [handle_error]
      refine ensures_bind (ensures_emit ?_)
      rw [continue_ok]
      refine ensures_bind (ensures_record ?_)
      rw [continue_ok]
      refine ensures_throw ⟨sent, _, hreach, ⟨Context.moves_record _ _, ?_, ?_⟩, by simp, ?_⟩
      · simpa using StepOutcome.failed_harmless mintBatchStep hnotFatal
      · rintro e' ⟨⟩
        exact hnotFatal
      · revert hsent
        cases checkBatchArguments recipients uris with
        | error _ => exact fun h => ⟨h, rfl⟩
        | ok _ =>
          rintro ⟨answer, h, hnone⟩
          exact ⟨answer, h, hnone, rfl⟩

end NftProbe.Run
