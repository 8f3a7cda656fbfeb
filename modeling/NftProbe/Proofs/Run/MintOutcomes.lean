import NftProbe.Proofs.Run.MintedIds
import NftProbe.Proofs.Run.Endings

/-!
# How a mint ends

A mint step sends at most one transaction, and what it returns, records and raises is decided by
the client's answer to it. `MintEnd` lists the ways: the send fails, the transaction is not
included or reverts, the receipt holds a transfer log of the contract whose token id does not fit
64 bits, or the receipt's mint events are checked against the recipients. Reading a receipt's
transfers refuses every such log, whether it reports a mint or a transfer between owners
(`collectLogs_eq_error_iff`), so one oversized transfer fails the mint even when its mint events
are right (`oversized_transfer_fails_mint`).

Main statement: `mints_follow_receipts`. The single and the batch mint add exactly the checked
tokens and record one outcome, passed exactly when they return; a batch whose lists are refused
sends nothing.
-/

set_option autoImplicit false

namespace NftProbe

namespace Contract

/-! ### Transfer logs that do not decode -/

/-- A log of `contract` that reports a transfer whose token id does not fit 64 bits. -/
def OversizedTransfer (contract : Address) (log : LogEntry) : Prop :=
  log.address = contract ∧
    ∃ source target id, log.topics = [transferTopic, source, target, id] ∧ u64Max < id.toNat

/-- A log reads as a transfer that cannot be decoded exactly when it has the transfer's shape and
a token id that does not fit 64 bits. -/
theorem TransferEvent.ofLog?_eq_some_error {log : LogEntry} {e : Abi.AbiError} :
    TransferEvent.ofLog? log = some (.error e) ↔
      (∃ source target id, log.topics = [transferTopic, source, target, id] ∧ u64Max < id.toNat) ∧
        e = .overflow "u64" := by
  unfold TransferEvent.ofLog?
  split
  · rename_i topic source target id htopics
    have hword : (Word.ofNatWrap id.toNat).toNat = id.toNat := Word.toNat_ofNatWrap id.isLt
    by_cases htopic : topic = transferTopic
    · subst htopic
      by_cases hfits : id.toNat ≤ u64Max
      · simp [htopics, Abi.toU64, Word.toU64?, hword, hfits, Except.map]
      · simp [htopics, Abi.toU64, Word.toU64?, hword, hfits, Except.map, eq_comm]
        exact fun _ => by omega
    · simp [htopics, htopic]
  · rename_i hshape
    simp only [reduceCtorEq, false_iff, not_and]
    rintro ⟨source, target, id, htopics, -⟩
    exact absurd htopics (hshape _ _ _ _)

end Contract

/-- A list of results gathered by `mapM` fails exactly when one of them is a failure, and then
with one of theirs. -/
theorem mapM_id_eq_error {ε α : Type} {xs : List (Except ε α)} {e : ε}
    (h : xs.mapM id = .error e) : .error e ∈ xs := by
  induction xs with
  | nil => cases h
  | cons x xs ih =>
    cases x with
    | error e' =>
      cases h
      exact List.mem_cons_self
    | ok a =>
      rcases hrest : xs.mapM id with e' | as
      · simp only [List.mapM_cons, id, hrest] at h
        cases h
        exact List.mem_cons_of_mem _ (ih hrest)
      · simp [List.mapM_cons, hrest] at h

theorem mapM_id_ne_ok {ε α : Type} {xs : List (Except ε α)} {e : ε} (h : .error e ∈ xs) :
    ∃ e', xs.mapM id = .error e' := by
  induction xs with
  | nil => cases h
  | cons x xs ih =>
    rcases List.mem_cons.1 h with rfl | hrest
    · exact ⟨e, rfl⟩
    · cases x with
      | error e' => exact ⟨e', rfl⟩
      | ok a =>
        obtain ⟨e', he'⟩ := ih hrest
        exact ⟨e', by simp [List.mapM_cons, he']⟩

namespace Contract

/-- Reading a contract's transfers from logs fails exactly when one of its logs reports a transfer
whose token id does not fit 64 bits, mint or not, and always for that reason. -/
theorem collectLogs_eq_error_iff {logs : List LogEntry} {contract : Address} {e : Abi.AbiError} :
    TransferEvent.collectLogs logs contract = .error e ↔
      e = .overflow "u64" ∧ ∃ log ∈ logs, OversizedTransfer contract log := by
  unfold TransferEvent.collectLogs
  constructor
  · intro h
    obtain ⟨log, hmem, hlog⟩ := List.mem_filterMap.1 (mapM_id_eq_error h)
    obtain ⟨hlogs, haddress⟩ := List.mem_filter.1 hmem
    obtain ⟨hshape, rfl⟩ := TransferEvent.ofLog?_eq_some_error.1 hlog
    exact ⟨rfl, log, hlogs, by simpa using haddress, hshape⟩
  · rintro ⟨rfl, log, hlogs, haddress, hshape⟩
    have hmem : .error (.overflow "u64") ∈
        (logs.filter (·.address = contract)).filterMap TransferEvent.ofLog? :=
      List.mem_filterMap.2 ⟨log, List.mem_filter.2 ⟨hlogs, by simpa using haddress⟩,
        TransferEvent.ofLog?_eq_some_error.2 ⟨hshape, rfl⟩⟩
    obtain ⟨e', he'⟩ := mapM_id_ne_ok hmem
    obtain ⟨log', hmem', hlog'⟩ := List.mem_filterMap.1 (mapM_id_eq_error he')
    obtain ⟨-, rfl⟩ := TransferEvent.ofLog?_eq_some_error.1 hlog'
    exact he'

end Contract

namespace Run

open StepM Contract

/-! ### The endings -/

/-- A batch is refused before any call exactly when its lists differ in length or are empty, and
always as an argument mismatch. -/
theorem checkBatchArguments_eq_ok {recipients : List Address} {uris : List String} :
    checkBatchArguments recipients uris = .ok () ↔
      recipients.length = uris.length ∧ recipients ≠ [] := by
  unfold checkBatchArguments
  by_cases hlength : recipients.length = uris.length
  · cases recipients <;> simp [hlength]
  · simp [hlength]

theorem checkBatchArguments_kind {recipients : List Address} {uris : List String}
    {e : HarnessError} (h : checkBatchArguments recipients uris = .error e) :
    e.kind = .argumentMismatch := by
  unfold checkBatchArguments at h
  split at h
  · cases h
    rfl
  · split at h <;> cases h
    rfl

variable {σ : Type}

section Ending

variable (c : Client σ) (a : σ) (minter contract : Address) (mint : Abi.Call)
  (recipients : List Address)

/-- How a mint's transaction and the check of its events end, started from client state `a`:
what they return and the client's state after them. The call named is the only call made. -/
inductive MintEnd : Except HarnessError (List Nat) → σ → Prop
  /-- The client could not send the mint. -/
  | sendFailed {error : ClientError} {a' : σ} :
      c.Calls a [.send minter contract mint (.error error)] a' →
      MintEnd (.error (.mintFailed error.message)) a'
  /-- The mint was sent, but it was not included or it reverted. -/
  | refused {outcome : TxOutcome} {reason : String} {a' : σ} :
      c.Calls a [.send minter contract mint (.ok outcome)] a' →
      successfulReceipt outcome = .error reason →
      MintEnd (.error (.mintFailed reason)) a'
  /-- The mint went through, but a transfer logged by the contract has a token id that does not
  fit 64 bits. -/
  | unreadable {outcome : TxOutcome} {receipt : Receipt} {a' : σ} :
      c.Calls a [.send minter contract mint (.ok outcome)] a' →
      successfulReceipt outcome = .ok receipt →
      (∃ log ∈ receipt.logs, OversizedTransfer contract log) →
      MintEnd (.error (.abi (.overflow "u64"))) a'
  /-- The mint went through, and its mint events, in log order, were checked against the
  recipients. -/
  | checked {outcome : TxOutcome} {receipt : Receipt} {events : List TransferEvent}
      {r : Except HarnessError (List Nat)} {a' : σ} :
      c.Calls a [.send minter contract mint (.ok outcome)] a' →
      successfulReceipt outcome = .ok receipt →
      TransferEvent.collect receipt contract = .ok events →
      (verifyMinted (events.filter TransferEvent.isMint) recipients).run = .ok r →
      MintEnd r a'

variable {c a minter contract mint recipients}

/-- A mint fails as a failed mint, or as a client failure when its receipt cannot be read. -/
theorem MintEnd.error_kind {e : HarnessError} {a' : σ}
    (hend : MintEnd c a minter contract mint recipients (.error e) a') :
    e.kind = .mintFailed ∨ e.kind = .clientFailure := by
  cases hend with
  | sendFailed => exact .inl rfl
  | refused => exact .inl rfl
  | unreadable => exact .inr rfl
  | checked _ _ _ hcheck => exact .inl (verifyMinted_run hcheck)

end Ending

/-! ### The steps -/

section Steps

variable (c : Client σ)

/-- A mint sends its one transaction and, once it is checked, ends in one of the ways `MintEnd`
lists; it leaves the context alone. -/
theorem submitMint_ends (minter : Address) (mint : Abi.Call) (recipients : List Address)
    (s : Session σ) {d : DeploymentResult} (hmutable : s.context.phase.allowsMutations = true)
    (hd : s.context.deployment = some d) :
    Ensures (submitMint c minter mint) (fun r s' => s'.context = s.context ∧
      match r with
      | .ok (_, events) => ∀ v, (verifyMinted events recipients).run = .ok v →
          MintEnd c s.client minter d.contractAddress mint recipients v s'.client
      | .error e => MintEnd c s.client minter d.contractAddress mint recipients (.error e)
          s'.client) s := by
  unfold submitMint
  refine ensures_bind (ensures_ensureMutable ?_)
  simp only [Context.ensureMutable, hmutable, if_true, continue_ok]
  refine ensures_bind (ensures_contract ?_)
  simp only [Context.contract, hd, continue_ok]
  refine ensures_bind (ensures_emit ?_)
  rw [continue_ok]
  refine ensures_bind (ensures_call fun answer c₁ hanswer => ?_)
  rw [continue_ok]
  have hsend : c.Calls s.client [.send minter d.contractAddress mint answer] c₁ :=
    Client.calls_singleton.2 hanswer
  cases answer with
  | error err => exact ensures_bind (ensures_throw ⟨rfl, .sendFailed hsend⟩)
  | ok outcome =>
    refine ensures_bind (ensures_pure ?_)
    rw [continue_ok]
    refine ensures_bind (ensures_fromResult ?_)
    cases hreceipt : successfulReceipt outcome with
    | error reason => exact ⟨rfl, .refused hsend hreceipt⟩
    | ok receipt =>
      simp only [Except.mapError, continue_ok]
      refine ensures_bind (ensures_fromResult ?_)
      cases hevents : TransferEvent.collect receipt d.contractAddress with
      | error abiError =>
        obtain ⟨rfl, hlog⟩ := collectLogs_eq_error_iff.1 hevents
        exact ⟨rfl, .unreadable hsend hreceipt hlog⟩
      | ok events =>
        simp only [continue_ok]
        exact ensures_pure ⟨rfl, fun v hv => .checked hsend hreceipt hevents hv⟩

/-- The single mint ends as its transaction and check do: it records the one token they find,
to the recipient with its URI, and a passed outcome; or it records a failed outcome and adds
nothing. -/
theorem mintOne_ends (minter recipient : Address) (uri : String) (s : Session σ)
    {d : DeploymentResult} (hmutable : s.context.phase.allowsMutations = true)
    (hd : s.context.deployment = some d) :
    Ensures (mintOne c minter recipient uri) (fun r s' => ∃ v o,
      MintEnd c s.client minter d.contractAddress (safeMint recipient uri) [recipient] v
        s'.client ∧
      o.step = mintOneStep ∧
      match v with
      | .ok ids => ∃ tokenId, ids = [tokenId] ∧ r = .ok tokenId ∧ o.success = true ∧
          s'.context = (s.context.addToken { tokenId, owner := recipient, uri }).record o
      | .error e => r = .error e ∧ o.success = false ∧ o.error = some e.kind ∧
          s'.context = s.context.record o) s := by
  unfold mintOne
  refine ensures_tryCatch_of (Q := fun r s' =>
      (∀ tokenId, r = .ok tokenId → ∃ o,
        MintEnd c s.client minter d.contractAddress (safeMint recipient uri) [recipient]
          (.ok [tokenId]) s'.client ∧
        o.step = mintOneStep ∧ o.success = true ∧
        s'.context = (s.context.addToken { tokenId, owner := recipient, uri }).record o) ∧
      (∀ e, r = .error e → s'.context = s.context ∧
        MintEnd c s.client minter d.contractAddress (safeMint recipient uri) [recipient]
          (.error e) s'.client)) ?_ ?_
  · refine Ensures.bind (submitMint_ends c minter _ [recipient] s hmutable hd) ?_
    rintro r ⟨c₁, ctx₁⟩ ⟨hctx, hr⟩
    dsimp only at hctx
    subst hctx
    cases r with
    | error e => exact ⟨(fun _ h => by cases h), fun _ h => by cases h; exact ⟨rfl, hr⟩⟩
    | ok pair =>
      obtain ⟨receipt, events⟩ := pair
      rw [continue_ok]
      refine ensures_bind (ensures_checking fun v hv => ?_)
      have hend := hr v hv
      cases v with
      | error e => exact ⟨(fun _ h => by cases h), fun _ h => by cases h; exact ⟨rfl, hend⟩⟩
      | ok ids =>
        rw [continue_ok]
        obtain ⟨hids, hlength⟩ := verifyMinted_run hv
        obtain ⟨event, rfl⟩ := List.length_eq_one_iff.mp hlength
        simp only [List.map_cons, List.map_nil] at hids
        subst hids
        simp only [List.head?_cons]
        refine ensures_bind (ensures_modifyContext ?_)
        rw [continue_ok]
        refine ensures_bind (ensures_emit ?_)
        rw [continue_ok]
        refine ensures_bind (ensures_record ?_)
        rw [continue_ok]
        exact ensures_pure ⟨(fun _ h => by cases h; exact ⟨_, hend, by simp, by simp, rfl⟩),
          fun _ h => by cases h⟩
  · rintro r ⟨c', ctx'⟩ ⟨hok, herror⟩
    cases r with
    | ok tokenId =>
      obtain ⟨o, hend, hstep, hsuccess, hctx⟩ := hok tokenId rfl
      rw [handle_ok]
      exact ⟨_, o, hend, hstep, tokenId, rfl, rfl, hsuccess, hctx⟩
    | error e =>
      obtain ⟨hctx, hend⟩ := herror e rfl
      dsimp only at hctx
      subst hctx
      rw [handle_error]
      refine ensures_bind (ensures_emit ?_)
      rw [continue_ok]
      refine ensures_bind (ensures_record ?_)
      rw [continue_ok]
      exact ensures_throw ⟨_, _, hend, by simp, rfl, by simp, by simp, rfl⟩

/-- The batch mint refuses lists of different lengths, or empty ones, before any call; otherwise
it ends as its transaction and check do, recording exactly the tokens they find, each to its
recipient with its URI, and a passed outcome, or a failed outcome and nothing else. -/
theorem mintBatch_ends (minter : Address) (recipients : List Address) (uris : List String)
    (s : Session σ) {d : DeploymentResult} (hmutable : s.context.phase.allowsMutations = true)
    (hd : s.context.deployment = some d) :
    Ensures (mintBatch c minter recipients uris) (fun r s' => ∃ o, o.step = mintBatchStep ∧
      match checkBatchArguments recipients uris with
      | .error e => r = .error e ∧ s'.client = s.client ∧ o.success = false ∧
          o.error = some e.kind ∧ s'.context = s.context.record o
      | .ok () => ∃ v,
          MintEnd c s.client minter d.contractAddress (batchMint recipients uris) recipients v
            s'.client ∧ r = v ∧
          match v with
          | .ok ids => o.success = true ∧ s'.context = ({ s.context with
              tokens := recordBatch s.context.tokens ids recipients uris }).record o
          | .error e => o.success = false ∧ o.error = some e.kind ∧
              s'.context = s.context.record o) s := by
  unfold mintBatch
  refine ensures_tryCatch_of (Q := fun r s' =>
      match checkBatchArguments recipients uris with
      | .error e' => r = .error e' ∧ s'.client = s.client ∧ s'.context = s.context
      | .ok () => match r with
        | .ok ids => ∃ o,
            MintEnd c s.client minter d.contractAddress (batchMint recipients uris) recipients
              (.ok ids) s'.client ∧
            o.step = mintBatchStep ∧ o.success = true ∧ s'.context = ({ s.context with
              tokens := recordBatch s.context.tokens ids recipients uris }).record o
        | .error e => s'.context = s.context ∧
            MintEnd c s.client minter d.contractAddress (batchMint recipients uris) recipients
              (.error e) s'.client) ?_ ?_
  · refine ensures_bind (ensures_fromResult ?_)
    cases hargs : checkBatchArguments recipients uris with
    | error e => exact ⟨rfl, rfl, rfl⟩
    | ok u =>
      rw [continue_ok]
      refine Ensures.bind (submitMint_ends c minter _ recipients s hmutable hd) ?_
      rintro r ⟨c₁, ctx₁⟩ ⟨hctx, hr⟩
      dsimp only at hctx
      subst hctx
      cases r with
      | error e => exact ⟨rfl, hr⟩
      | ok pair =>
        obtain ⟨receipt, events⟩ := pair
        rw [continue_ok]
        refine ensures_bind (ensures_checking fun v hv => ?_)
        have hend := hr v hv
        cases v with
        | error e => exact ⟨rfl, hend⟩
        | ok ids =>
          rw [continue_ok]
          refine ensures_bind (ensures_recordBatch ids recipients uris ?_)
          rw [continue_ok]
          refine ensures_bind (ensures_emit ?_)
          rw [continue_ok]
          refine ensures_bind (ensures_record ?_)
          rw [continue_ok]
          exact ensures_pure ⟨_, hend, by simp, by simp, rfl⟩
  · rintro r ⟨c', ctx'⟩ hr
    cases r with
    | ok ids =>
      rw [handle_ok]
      split at hr
      · rename_i e' hargs
        exact absurd hr.1 (by simp)
      · rename_i hargs
        obtain ⟨o, hend, hstep, hsuccess, hctx⟩ := hr
        refine ⟨o, hstep, ?_⟩
        exact ⟨_, hend, rfl, hsuccess, hctx⟩
    | error e =>
      rw [handle_error]
      refine ensures_bind (ensures_emit ?_)
      rw [continue_ok]
      generalize hfailed : ((StepOutcome.failed mintBatchStep e).detail "recipients"
        (.nat recipients.length)).detail "uris" (.nat uris.length) = failed
      refine ensures_bind (ensures_record ?_)
      rw [continue_ok]
      refine ensures_throw ⟨failed, by simp [← hfailed], ?_⟩
      split at hr
      · rename_i e' hargs
        obtain ⟨he, hclient, hctx⟩ := hr
        cases he
        dsimp only at hclient hctx ⊢
        rw [hctx]
        exact ⟨rfl, hclient, by simp [← hfailed], by simp [← hfailed], rfl⟩
      · rename_i hargs
        obtain ⟨hctx, hend⟩ := hr
        dsimp only at hctx ⊢
        rw [hctx]
        exact ⟨_, hend, rfl, by simp [← hfailed], by simp [← hfailed], rfl⟩

/-- How the mint steps end, whatever the client answers, in the minting phase with a contract
deployed. The single mint ends as its one transaction and check do (`MintEnd`): it returns the
one token id they find, records that token to its recipient and a passed outcome, or fails as a
failed mint or a client failure, records a failed outcome of that kind and adds no token. The
batch mint refuses lists of different lengths, or empty ones, with an argument mismatch and
without any call; otherwise it ends as its transaction and check do, records exactly the tokens
found, each to its recipient with its URI, replacing any record of the same id, and a passed
outcome, or a failed outcome and nothing else. -/
theorem mints_follow_receipts (minter : Address) (s : Session σ) {d : DeploymentResult}
    (hphase : s.context.phase = .minting) (hd : s.context.deployment = some d) :
    (∀ (recipient : Address) (uri : String),
      Ensures (mintOne c minter recipient uri) (fun r s' => ∃ v o,
        MintEnd c s.client minter d.contractAddress (safeMint recipient uri) [recipient] v
          s'.client ∧
        o.step = mintOneStep ∧
        match v with
        | .ok ids => ∃ tokenId, ids = [tokenId] ∧ r = .ok tokenId ∧ o.success = true ∧
            s'.context = (s.context.addToken { tokenId, owner := recipient, uri }).record o
        | .error e => r = .error e ∧ (e.kind = .mintFailed ∨ e.kind = .clientFailure) ∧
            o.success = false ∧ o.error = some e.kind ∧ s'.context = s.context.record o) s) ∧
    (∀ (recipients : List Address) (uris : List String),
      Ensures (mintBatch c minter recipients uris) (fun r s' => ∃ o, o.step = mintBatchStep ∧
        (recipients.length ≠ uris.length ∨ recipients = [] →
          ∃ e, r = .error e ∧ e.kind = .argumentMismatch ∧ s'.client = s.client ∧
            o.success = false ∧ o.error = some e.kind ∧ s'.context = s.context.record o) ∧
        (recipients.length = uris.length → recipients ≠ [] → ∃ v,
          MintEnd c s.client minter d.contractAddress (batchMint recipients uris) recipients v
            s'.client ∧ r = v ∧
          match v with
          | .ok ids => o.success = true ∧ s'.context = ({ s.context with
              tokens := recordBatch s.context.tokens ids recipients uris }).record o
          | .error e => (e.kind = .mintFailed ∨ e.kind = .clientFailure) ∧ o.success = false ∧
              o.error = some e.kind ∧ s'.context = s.context.record o)) s) := by
  have hmutable : s.context.phase.allowsMutations = true := by
    rw [hphase]
    rfl
  refine ⟨fun recipient uri => ?_, fun recipients uris => ?_⟩
  · refine (mintOne_ends c minter recipient uri s hmutable hd).mono ?_
    rintro r s' ⟨v, o, hend, hstep, hv⟩
    refine ⟨v, o, hend, hstep, ?_⟩
    cases v with
    | ok ids => exact hv
    | error e =>
      obtain ⟨hr, hsuccess, herror, hctx⟩ := hv
      exact ⟨hr, hend.error_kind, hsuccess, herror, hctx⟩
  · refine (mintBatch_ends c minter recipients uris s hmutable hd).mono ?_
    rintro r s' ⟨o, hstep, hcase⟩
    refine ⟨o, hstep, fun hrefused => ?_, fun hlength hnonempty => ?_⟩
    · cases hargs : checkBatchArguments recipients uris with
      | ok u =>
        obtain ⟨hlength, hnonempty⟩ := checkBatchArguments_eq_ok.1 hargs
        exact absurd hrefused (by simp [hlength, hnonempty])
      | error e =>
        rw [hargs] at hcase
        obtain ⟨hr, hclient, hsuccess, herror, hctx⟩ := hcase
        exact ⟨e, hr, checkBatchArguments_kind hargs, hclient, hsuccess, herror, hctx⟩
    · rw [checkBatchArguments_eq_ok.2 ⟨hlength, hnonempty⟩] at hcase
      obtain ⟨v, hend, hr, hv⟩ := hcase
      refine ⟨v, hend, hr, ?_⟩
      cases v with
      | ok ids => exact hv
      | error e => exact ⟨hend.error_kind, hv⟩

end Steps

/-! ### A transfer that no mint can read -/

/-- The receipt of a mint of token 1 by the contract at the zero address, logged with a transfer
between owners of a token whose id does not fit 64 bits. -/
def oversizedReceipt : Receipt :=
  includedReceipt [TransferEvent.toLog ⟨Address.zero, Address.ofNatWrap 1, 1⟩ Address.zero,
    TransferEvent.toLog ⟨Address.ofNatWrap 1, Address.ofNatWrap 2, 2 ^ 64⟩ Address.zero]

/-- A node that includes every transaction with the same receipt, and answers nothing else. -/
def Client.including (receipt : Receipt) : Client Unit where
  chainId := throw (.transport "unreachable")
  signers := throw (.transport "unreachable")
  balance _ := throw (.transport "unreachable")
  snapshot := throw (.transport "unreachable")
  deploy _ _ _ := throw (.transport "unreachable")
  send _ _ _ := pure (.included receipt)
  read _ _ := throw (.transport "unreachable")

/-- A run in the minting phase, with a contract deployed at the zero address. -/
def mintingSession : Session Unit :=
  ⟨(), { Context.create "mint" "" .test with
    phase := .minting,
    deployment := some ⟨Address.zero, Address.zero, Address.zero, Hash32.zero, 0, 0⟩ }⟩

theorem including_calls_send {receipt : Receipt} {source target : Address} {call : Abi.Call}
    {answer : Except ClientError TxOutcome} {a a' : Unit}
    (h : (Client.including receipt).Calls a [.send source target call answer] a') :
    answer = .ok (.included receipt) := by
  obtain ⟨a₁, ⟨log, log', hrun⟩, -⟩ := h
  cases hrun
  rfl

/-- The receipt's one mint event passes the check against its recipient, yet the single mint
fails as a client failure: the other transfer it logs has a token id that does not fit 64 bits. -/
theorem oversized_transfer_fails_mint :
    successfulReceipt (.included oversizedReceipt) = .ok oversizedReceipt ∧
    (verifyMinted [⟨Address.zero, Address.ofNatWrap 1, 1⟩] [Address.ofNatWrap 1]).run =
      .ok (.ok [1]) ∧
    Ensures (mintOne (Client.including oversizedReceipt) Address.zero (Address.ofNatWrap 1) "")
      (fun r _ => ∃ e, r = .error e ∧ e.kind = .clientFailure) mintingSession := by
  have hreceipt : successfulReceipt (.included oversizedReceipt) = .ok oversizedReceipt := rfl
  have hunreadable : ∃ e,
      TransferEvent.collect oversizedReceipt Address.zero = .error e := by
    refine ⟨_, collectLogs_eq_error_iff.2 ⟨rfl, _, List.mem_cons_of_mem _ List.mem_cons_self,
      rfl, _, _, _, rfl, ?_⟩⟩
    simp [Hash32.ofNatWrap, u64Max, u64Bound, wordBound]
  refine ⟨hreceipt, by decide, ?_⟩
  refine (mintOne_ends _ _ _ _ mintingSession rfl rfl).mono ?_
  rintro r s' ⟨v, o, hend, -, hv⟩
  cases hend with
  | sendFailed hcalls => cases including_calls_send hcalls
  | refused hcalls hrefused =>
    cases including_calls_send hcalls
    cases hreceipt.symm.trans hrefused
  | unreadable => exact ⟨_, hv.1, rfl⟩
  | checked hcalls hok hevents =>
    cases including_calls_send hcalls
    cases hreceipt.symm.trans hok
    obtain ⟨e, he⟩ := hunreadable
    cases he.symm.trans hevents

/-- In the minting phase with a contract deployed, the single mint of token metadata `""` to the
first account ends as `MintEnd` lists. -/
theorem including_mint_follows :
    mintingSession.context.phase = .minting ∧
    mintingSession.context.deployment =
      some ⟨Address.zero, Address.zero, Address.zero, Hash32.zero, 0, 0⟩ ∧
    Ensures (mintOne (Client.including oversizedReceipt) Address.zero (Address.ofNatWrap 1) "")
      (fun r s' => ∃ v o,
        MintEnd (Client.including oversizedReceipt) mintingSession.client Address.zero Address.zero
          (safeMint (Address.ofNatWrap 1) "") [Address.ofNatWrap 1] v s'.client ∧
        o.step = mintOneStep ∧
        match v with
        | .ok ids => ∃ tokenId, ids = [tokenId] ∧ r = .ok tokenId ∧ o.success = true ∧
            s'.context = (mintingSession.context.addToken
              { tokenId, owner := Address.ofNatWrap 1, uri := "" }).record o
        | .error e => r = .error e ∧ (e.kind = .mintFailed ∨ e.kind = .clientFailure) ∧
            o.success = false ∧ o.error = some e.kind ∧
            s'.context = mintingSession.context.record o) mintingSession :=
  ⟨rfl, rfl, (mints_follow_receipts (Client.including oversizedReceipt) Address.zero
    mintingSession rfl rfl).1 (Address.ofNatWrap 1) ""⟩

end Run

end NftProbe
