import NftProbe.Proofs.Run.Transfer
import NftProbe.Proofs.Run.Totality

/-!
# How a transfer ends

The transfer step's result is decided by the client's answers alone, and the relation
`TransferEnd` lists every way it can end. A token the run never minted is refused before any
call. A send that fails, a transaction that is not included and one that reverts are rejections,
after which no owner is read. After a transaction that went through, the owner read decides: an
owner that cannot be read, another owner, or the recipient. The record follows the token exactly
when the transaction went through and the owner read did not show another owner.

Main statement: `transfer_outcome_decided`, which adds that the step records exactly one
outcome of its own, passed exactly when it succeeds, and that none of its errors is fatal.
-/

set_option autoImplicit false

namespace NftProbe.Run

open StepM Contract

variable {σ : Type}

/-! ### Records and reads -/

/-- Moving a token changes the owner of its record and of no other. -/
@[simp] theorem Context.token?_setOwner (context : Context) (tokenId id : Nat) (owner : Address) :
    (context.setOwner tokenId owner).token? id =
      if id = tokenId then (context.token? id).map ({ · with owner }) else context.token? id := by
  simp only [Context.token?, Context.setOwner, Table.get?, List.find?_map]
  have hkeys : ((fun entry : Nat × TokenRecord => entry.1 == id) ∘
      fun entry => if entry.1 == tokenId then (entry.1, { entry.2 with owner }) else entry) =
      fun entry => entry.1 == id := by
    funext entry
    by_cases h : entry.1 = tokenId <;> simp [h]
  rw [hkeys]
  rcases hfind : List.find? (fun entry => entry.1 == id) context.tokens with _ | ⟨k, v⟩
  · simp [hfind]
  · have hk : k = id := by simpa using List.find?_some hfind
    subst hk
    by_cases h : k = tokenId
    · subst h
      simp [hfind]
    · simp [hfind, h]

/-- The value a read shows once converted, or why it shows none: the client failed, or its
answer is not one value of the expected kind. -/
def readValue {γ : Type} (convert : Abi.Token → Except Abi.AbiError γ) :
    Except ClientError (List Abi.Token) → Except HarnessError γ
  | .ok tokens => (single tokens >>= convert).mapError .abi
  | .error error => .error (.client error)

section Reads

variable (c : Client σ)

/-- A read makes exactly one call, the read itself, leaves the context alone and returns the
value its answer shows. -/
theorem readSingle_calls {γ : Type} (contract : Address) (query : Abi.Call)
    (convert : Abi.Token → Except Abi.AbiError γ) (s : Session σ) :
    Ensures (readSingle c contract query convert) (fun r s' => s'.context = s.context ∧
      ∃ answer, c.Calls s.client [.read contract query answer] s'.client ∧
        r = .ok (readValue convert answer)) s := by
  unfold readSingle
  refine ensures_bind (ensures_call fun answer c₁ hanswer => ?_)
  rw [continue_ok]
  cases answer with
  | error err => exact ensures_pure ⟨rfl, _, Client.calls_singleton.2 hanswer, rfl⟩
  | ok tokens => exact ensures_pure ⟨rfl, _, Client.calls_singleton.2 hanswer, rfl⟩

end Reads

/-! ### The endings -/

section Ending

variable (c : Client σ) (a : σ) (context : Context) (contract : Address) (tokenId : Nat)
  (sender recipient : Address)

/-- How a transfer step started from client state `a` and context `context` ends: its result,
the client's state after it, and the context it leaves before it records its outcome. The calls
named are every call the step makes, with the client's answers. -/
inductive TransferEnd : Except HarnessError Unit → σ → Context → Prop
  /-- The run never minted the token: nothing is sent. -/
  | untracked :
      context.token? tokenId = none →
      TransferEnd (.error (.transferRejected tokenId "token was not minted in this run")) a context
  /-- The client could not send the transfer. -/
  | sendFailed {record : TokenRecord} {error : ClientError} {a' : σ} :
      context.token? tokenId = some record →
      c.Calls a [.send sender contract (transferFrom record.owner recipient tokenId) (.error error)]
        a' →
      TransferEnd (.error (.transferRejected tokenId error.message)) a' context
  /-- The transfer was sent, but it was not included or it reverted. -/
  | refused {record : TokenRecord} {outcome : TxOutcome} {reason : String} {a' : σ} :
      context.token? tokenId = some record →
      c.Calls a [.send sender contract (transferFrom record.owner recipient tokenId) (.ok outcome)]
        a' →
      successfulReceipt outcome = .error reason →
      TransferEnd (.error (.transferRejected tokenId reason)) a' context
  /-- The transfer went through, but the owner could not be read back; the record still follows
  the token. -/
  | unreadable {record : TokenRecord} {outcome : TxOutcome} {receipt : Receipt}
      {answer : Except ClientError (List Abi.Token)} {error : HarnessError} {a' : σ} :
      context.token? tokenId = some record →
      c.Calls a [.send sender contract (transferFrom record.owner recipient tokenId) (.ok outcome),
        .read contract (ownerOf tokenId) answer] a' →
      successfulReceipt outcome = .ok receipt →
      readValue Abi.Token.asAddress answer = .error error →
      TransferEnd (.error (.ownerUnreadable tokenId recipient error.message)) a'
        (context.setOwner tokenId recipient)
  /-- The transfer went through, but the contract names another owner. -/
  | notReflected {record : TokenRecord} {outcome : TxOutcome} {receipt : Receipt}
      {answer : Except ClientError (List Abi.Token)} {owner : Address} {a' : σ} :
      context.token? tokenId = some record →
      c.Calls a [.send sender contract (transferFrom record.owner recipient tokenId) (.ok outcome),
        .read contract (ownerOf tokenId) answer] a' →
      successfulReceipt outcome = .ok receipt →
      readValue Abi.Token.asAddress answer = .ok owner → owner ≠ recipient →
      TransferEnd (.error (.transferNotReflected tokenId recipient owner)) a' context
  /-- The transfer went through and the contract names the recipient as the owner. -/
  | moved {record : TokenRecord} {outcome : TxOutcome} {receipt : Receipt}
      {answer : Except ClientError (List Abi.Token)} {a' : σ} :
      context.token? tokenId = some record →
      c.Calls a [.send sender contract (transferFrom record.owner recipient tokenId) (.ok outcome),
        .read contract (ownerOf tokenId) answer] a' →
      successfulReceipt outcome = .ok receipt →
      readValue Abi.Token.asAddress answer = .ok recipient →
      TransferEnd (.ok ()) a' (context.setOwner tokenId recipient)

variable {c a context contract tokenId sender recipient}

/-- No way a transfer fails stops the run. -/
theorem TransferEnd.not_fatal {e : HarnessError} {a' : σ} {context' : Context}
    (hend : TransferEnd c a context contract tokenId sender recipient (.error e) a' context') :
    e.isFatal = false := by
  cases hend <;> rfl

end Ending

/-! ### The step -/

section Step

variable (c : Client σ)

/-- The transfer's attempt leaves the context alone and ends in one of the ways `TransferEnd`
lists: with a passed outcome of the transfer step when the token moved. -/
theorem tryTransfer_ends (tokenId : Nat) (sender recipient : Address) (s : Session σ)
    {d : DeploymentResult} (hmutable : s.context.phase.allowsMutations = true)
    (hd : s.context.deployment = some d) :
    Ensures (tryTransfer c tokenId sender recipient) (fun r s' => s'.context = s.context ∧
      match r with
      | .ok o => o.step = transferStep ∧ o.success = true ∧
          TransferEnd c s.client s.context d.contractAddress tokenId sender recipient (.ok ())
            s'.client (s.context.setOwner tokenId recipient)
      | .error e => ∃ context',
          TransferEnd c s.client s.context d.contractAddress tokenId sender recipient (.error e)
            s'.client context') s := by
  unfold tryTransfer
  refine ensures_bind (ensures_ensureMutable ?_)
  simp only [Context.ensureMutable, hmutable, if_true, continue_ok]
  refine ensures_bind (ensures_contract ?_)
  simp only [Context.contract, hd, continue_ok]
  refine ensures_bind (ensures_context ?_)
  rw [continue_ok]
  split
  · rename_i record hrecord
    have htracked : s.context.token? tokenId = some record := hrecord
    refine ensures_bind (ensures_emit ?_)
    rw [continue_ok]
    refine ensures_bind (ensures_call fun answer c₁ hanswer => ?_)
    rw [continue_ok]
    have hsend : c.Calls s.client
        [.send sender d.contractAddress (transferFrom record.owner recipient tokenId) answer] c₁ :=
      Client.calls_singleton.2 hanswer
    cases answer with
    | error err => exact ensures_bind (ensures_throw ⟨rfl, _, .sendFailed htracked hsend⟩)
    | ok outcome =>
      refine ensures_bind (ensures_pure ?_)
      rw [continue_ok]
      refine ensures_bind (ensures_fromResult ?_)
      cases hreceipt : successfulReceipt outcome with
      | error reason => exact ⟨rfl, _, .refused htracked hsend hreceipt⟩
      | ok receipt =>
        simp only [Except.mapError, continue_ok]
        refine Ensures.bind (readSingle_calls c _ _ _ _) ?_
        rintro _ ⟨c₂, ctx₂⟩ ⟨hctx, answer, hread, rfl⟩
        dsimp only at hctx hread
        subst hctx
        rw [continue_ok]
        have hcalls : c.Calls s.client
            [.send sender d.contractAddress (transferFrom record.owner recipient tokenId)
              (.ok outcome), .read d.contractAddress (ownerOf tokenId) answer] c₂ :=
          ⟨c₁, hanswer, hread⟩
        cases hvalue : readValue Abi.Token.asAddress answer with
        | error e =>
          exact ensures_bind (ensures_throw ⟨rfl, _, .unreadable htracked hcalls hreceipt hvalue⟩)
        | ok owner =>
          refine ensures_bind (ensures_pure ?_)
          rw [continue_ok]
          split
          · rename_i hother
            exact ensures_bind
              (ensures_throw ⟨rfl, _, .notReflected htracked hcalls hreceipt hvalue hother⟩)
          · rename_i hsame
            rw [not_ne_iff] at hsame
            subst hsame
            refine ensures_bind (ensures_emit ?_)
            rw [continue_ok]
            exact ensures_pure ⟨rfl, by simp, by simp, .moved htracked hcalls hreceipt hvalue⟩
  · rename_i hnone
    have huntracked : s.context.token? tokenId = none :=
      Option.eq_none_iff_forall_ne_some.2 hnone
    exact ensures_throw ⟨rfl, _, .untracked huntracked⟩

/-- How the transfer step ends, whatever the client answers, in a phase that may change the chain
and with a contract deployed: in exactly one of the ways `TransferEnd` lists, which fixes its
result, its calls and what becomes of the token's record. It then records exactly one outcome of
the transfer step, passed exactly when the step succeeds, and none of its errors is fatal. -/
theorem transfer_outcome_decided (tokenId : Nat) (sender recipient : Address) (s : Session σ)
    {d : DeploymentResult} (hphase : s.context.phase = .transferring)
    (hd : s.context.deployment = some d) :
    Ensures (transferToken c tokenId sender recipient) (fun r s' => ∃ context o,
      TransferEnd c s.client s.context d.contractAddress tokenId sender recipient r s'.client
        context ∧
      s'.context = context.record o ∧ o.step = transferStep ∧ (o.success = true ↔ r = .ok ()) ∧
      ∀ e, r = .error e → e.isFatal = false) s := by
  have hmutable : s.context.phase.allowsMutations = true := by
    rw [hphase]
    rfl
  unfold transferToken
  refine ensures_tryCatch (Ensures.bind (tryTransfer_ends c tokenId sender recipient s hmutable hd) ?_)
  rintro r ⟨c₁, ctx₁⟩ ⟨hctx, hr⟩
  dsimp only at hctx hr
  subst hctx
  cases r with
  | ok o =>
    obtain ⟨hstep, hsuccess, hend⟩ := hr
    rw [continue_ok]
    refine ensures_bind (ensures_modifyContext ?_)
    rw [continue_ok]
    refine ensures_record ?_
    rw [handle_ok]
    exact ⟨_, o, hend, rfl, hstep, by simp [hsuccess], by simp⟩
  | error e =>
    obtain ⟨context', hend⟩ := hr
    rw [continue_error, handle_error]
    refine ensures_bind (ensures_emit ?_)
    rw [continue_ok]
    generalize hfailed : ((StepOutcome.failed transferStep e).detail "sender"
        (.string sender.toHex)).detail "to" (.string recipient.toHex) = failed
    have hrecorded : ∃ context o,
        TransferEnd c s.client s.context d.contractAddress tokenId sender recipient (.error e) c₁
          context ∧
        context'.record failed = context.record o ∧ o.step = transferStep ∧
        (o.success = true ↔ (.error e : Except HarnessError Unit) = .ok ()) ∧
        ∀ e', (.error e : Except HarnessError Unit) = .error e' → e'.isFatal = false :=
      ⟨context', failed, hend, rfl, by simp [← hfailed], by simp [← hfailed],
        fun e' he' => by
          cases he'
          exact hend.not_fatal⟩
    cases hend with
    | untracked | sendFailed | refused | notReflected =>
      exact ensures_bind (ensures_record (ensures_throw hrecorded))
    | unreadable =>
      exact ensures_bind (ensures_modifyContext
        (ensures_bind (ensures_record (ensures_throw hrecorded))))

end Step

/-- A node whose contract reports an empty supply and includes every transaction without logs;
it refuses everything else. -/
def Client.quiet : Client Unit where
  chainId := throw (.transport "unreachable")
  signers := throw (.transport "unreachable")
  balance _ := throw (.transport "unreachable")
  snapshot := throw (.transport "unreachable")
  deploy _ _ _ := throw (.transport "unreachable")
  send _ _ _ := pure (.included (includedReceipt []))
  read _ _ := pure [.uint (Word.ofU64 0)]

/-- A run in the transfer phase, with a contract deployed at the zero address and token 1
recorded as owned by the zero address. -/
def transferringSession : Session Unit :=
  ⟨(), { Context.create "transfer" "" .test with
    phase := .transferring,
    deployment := some ⟨Address.zero, Address.zero, Address.zero, Hash32.zero, 0, 0⟩,
    tokens := [(1, ⟨1, Address.zero, ""⟩)] }⟩

theorem quiet_transfer_decided :
    transferringSession.context.phase = .transferring ∧
    transferringSession.context.deployment =
      some ⟨Address.zero, Address.zero, Address.zero, Hash32.zero, 0, 0⟩ ∧
    Ensures (transferToken Client.quiet 1 Address.zero Address.zero) (fun r s' => ∃ context o,
      TransferEnd Client.quiet transferringSession.client transferringSession.context Address.zero
        1 Address.zero Address.zero r s'.client context ∧
      s'.context = context.record o ∧ o.step = transferStep ∧ (o.success = true ↔ r = .ok ()) ∧
      ∀ e, r = .error e → e.isFatal = false) transferringSession :=
  ⟨rfl, rfl, transfer_outcome_decided Client.quiet 1 Address.zero Address.zero transferringSession
    rfl rfl⟩

end NftProbe.Run
