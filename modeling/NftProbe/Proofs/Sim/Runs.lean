import NftProbe.Proofs.Sim.Operations
import NftProbe.Proofs.Run.Transcript

/-!
# Runs of the simulated chain, with their answers

An `Event` is one thing a test does to a simulated chain, kept with what the chain answered: a
call of the chain's client (an `Exchange`), or the setting of a fault switch. `Runs chain events
chain'` says that the events happen one after the other from `chain` and leave `chain'`.

What an event does to the books of the chain (its transaction count, blocks, nonces, balances
and contracts) is said once, by `Event.Books`, and read off the endings of `Calls` in
`Event.Step.books`. There are three ways. An event may leave the books as they are: a read, a
switch, or a creation or call refused before it takes a number. It may take the next number and
nothing else: a dropped transaction, which answers the hash of that number, or a creation refused
after its number was taken. Or it is included in a new block (`Chain.includeFrom`): it answers
the hash of the next number and a receipt that names the new block, and the contracts are kept,
the called contract is replaced, or a new contract stands at the sender's creation address, which
is then the address the creation reports. Every invariant of a run is proved from this one
description, by one case per way.
-/

set_option autoImplicit false

namespace NftProbe.Sim

open Abi Contract

/-- One thing a test does to a simulated chain, with what the chain answered. -/
inductive Event
  /-- A call of the chain's client and its answer. -/
  | call (exchange : Exchange)
  | revertNext
  | dropNext
  | staleOwnerReads (enabled : Bool)

namespace Event

/-- The event happens from `chain` and leaves `chain'`: the client's operation gives the answer
the event records, or the switch is set. -/
def Step : Event → Chain → Chain → Prop
  | .call exchange, chain, chain' => client.Answers chain exchange chain'
  | .revertNext, chain, chain' => revertNextTransaction.Answers chain (.ok ()) chain'
  | .dropNext, chain, chain' => dropNextInclusion.Answers chain (.ok ()) chain'
  | .staleOwnerReads enabled, chain, chain' =>
    (setStaleOwnerReads enabled).Answers chain (.ok ()) chain'

/-- The sender and the data of a transaction: a creation's init code followed by its constructor
arguments, or a call's calldata. -/
def signed? : Event → Option (Address × Bytes)
  | .call (.deploy source bytecode args _) => some (source, bytecode ++ args)
  | .call (.send source _ request _) => some (source, request.calldata)
  | _ => none

/-- The hash a creation or a call answered, included or not. -/
def txHash? : Event → Option Hash32
  | .call (.deploy _ _ _ (.ok deployment)) => some deployment.outcome.txHash
  | .call (.send _ _ _ (.ok outcome)) => some outcome.txHash
  | _ => none

/-- The receipt of a creation or call that was included, reverted or not. -/
def receipt? : Event → Option Receipt
  | .call (.deploy _ _ _ (.ok deployment)) => deployment.outcome.receipt
  | .call (.send _ _ _ (.ok outcome)) => outcome.receipt
  | _ => none

/-- The contract address a creation reports. -/
def created? : Event → Option Address
  | .call (.deploy _ _ _ (.ok deployment)) => deployment.address
  | _ => none

/-- The block a snapshot answered. -/
def snapshot? : Event → Option BlockSnapshot
  | .call (.snapshot (.ok snapshot)) => some snapshot
  | _ => none

end Event

/-- The events happen one after the other from `chain` and leave `chain''`. -/
def Runs : Chain → List Event → Chain → Prop
  | chain, [], chain' => chain = chain'
  | chain, event :: events, chain'' => ∃ chain', event.Step chain chain' ∧ Runs chain' events chain''

@[simp] theorem runs_nil {chain chain' : Chain} : Runs chain [] chain' ↔ chain = chain' := Iff.rfl

theorem runs_append {chain chain'' : Chain} {events events' : List Event} :
    Runs chain (events ++ events') chain'' ↔
      ∃ chain', Runs chain events chain' ∧ Runs chain' events' chain'' := by
  induction events generalizing chain with
  | nil => simp [Runs]
  | cons event events ih =>
    simp only [List.cons_append, Runs, ih]
    constructor
    · rintro ⟨chain₁, hstep, chain', hrun, hrun'⟩
      exact ⟨chain', ⟨chain₁, hstep, hrun⟩, hrun'⟩
    · rintro ⟨chain', ⟨chain₁, hstep, hrun⟩, hrun'⟩
      exact ⟨chain₁, hstep, chain', hrun, hrun'⟩

/-- A run through an event: the run up to it, the event, and the run after it. -/
theorem Runs.split {chain chain' : Chain} {pre post : List Event} {event : Event}
    (h : Runs chain (pre ++ event :: post) chain') :
    ∃ chain₁ chain₂, Runs chain pre chain₁ ∧ event.Step chain₁ chain₂ ∧ Runs chain₂ post chain' := by
  obtain ⟨chain₁, hpre, chain₂, hstep, hpost⟩ := runs_append.1 h
  exact ⟨chain₁, chain₂, hpre, hstep, hpost⟩

/-- A relation between the states of a chain that every event keeps holds along every run. -/
theorem Runs.lift {R : Chain → Chain → Prop} (hrefl : ∀ chain, R chain chain)
    (htrans : ∀ chain₁ chain₂ chain₃, R chain₁ chain₂ → R chain₂ chain₃ → R chain₁ chain₃)
    (hstep : ∀ (event : Event) chain chain', event.Step chain chain' → R chain chain')
    {chain chain' : Chain} {events : List Event} (h : Runs chain events chain') : R chain chain' := by
  induction events generalizing chain with
  | nil =>
    rw [runs_nil] at h
    rw [h]
    exact hrefl chain'
  | cons event events ih =>
    obtain ⟨chain₁, hfirst, hrest⟩ := h
    exact htrans _ _ _ (hstep event _ _ hfirst) (ih hrest)

/-- A property of states that every event keeps holds at the end of every run that starts in it. -/
theorem Runs.invariant {P : Chain → Prop}
    (hstep : ∀ (event : Event) chain chain', P chain → event.Step chain chain' → P chain')
    {chain chain' : Chain} {events : List Event} (h : Runs chain events chain') (hP : P chain) :
    P chain' :=
  Runs.lift (R := fun chain chain' => P chain → P chain') (fun _ hP => hP)
    (fun _ _ _ h₁ h₂ hP => h₂ (h₁ hP)) (fun event _ _ hs hP => hstep event _ _ hP hs) h hP

/-! ### What an event does to the books -/

/-- The nonce of an account: the number of its transactions that were included. -/
def Chain.nonce (chain : Chain) (account : Address) : Nat :=
  (chain.nonces.get? account).getD 0

@[simp] theorem Chain.blockNumber_includeFrom (chain : Chain) (source : Address) (gasUsed : Nat) :
    (chain.includeFrom source gasUsed).blockNumber = chain.blockNumber + 1 := rfl

@[simp] theorem Chain.txCount_includeFrom (chain : Chain) (source : Address) (gasUsed : Nat) :
    (chain.includeFrom source gasUsed).txCount = chain.txCount := rfl

@[simp] theorem Chain.nonces_includeFrom (chain : Chain) (source : Address) (gasUsed : Nat) :
    (chain.includeFrom source gasUsed).nonces = chain.nonces.update source 0 (· + 1) := rfl

@[simp] theorem Chain.balances_includeFrom (chain : Chain) (source : Address) (gasUsed : Nat) :
    (chain.includeFrom source gasUsed).balances =
      chain.balances.update source Word.zero fun balance =>
        Word.ofNatWrap (balance.toNat - gasUsed * chain.config.gasPriceWei) := rfl

@[simp] theorem Chain.contracts_includeFrom (chain : Chain) (source : Address) (gasUsed : Nat) :
    (chain.includeFrom source gasUsed).contracts = chain.contracts := rfl

@[simp] theorem Chain.config_includeFrom (chain : Chain) (source : Address) (gasUsed : Nat) :
    (chain.includeFrom source gasUsed).config = chain.config := rfl

theorem Chain.creationAddress_eq (chain : Chain) (source : Address) :
    chain.creationAddress source = contractAddress source (chain.nonce source) := rfl

/-- How an included transaction from `source` changes the table of contracts. -/
inductive ContractsMove (chain : Chain) (source : Address) (event : Event) :
    Table Address Collection → Prop
  /-- The table is kept. -/
  | keep : event.created? = none → ContractsMove chain source event chain.contracts
  /-- The called contract, which the chain holds, is replaced. -/
  | replace {target : Address} {c : Collection} : event.created? = none →
      chain.contracts.contains target = true →
      ContractsMove chain source event (chain.contracts.insert target c)
  /-- A new contract is stored at the sender's creation address, the address the creation
  reports. -/
  | create {c : Collection} : event.created? = some (chain.creationAddress source) →
      ContractsMove chain source event (chain.contracts.insert (chain.creationAddress source) c)

/-- What one event does to the books of the chain. The counter of calls and the switches may
change in any way. -/
inductive Event.Books (chain : Chain) (event : Event) : Chain → Prop
  /-- Nothing is numbered or included: a read, a switch, or a call refused before it took a
  number. -/
  | idle {calls : Nat} {revert drop stale : Bool} :
      event.txHash? = none → event.receipt? = none → event.created? = none →
      Books chain event
        { chain with
          mutatingCalls := calls, revertNext := revert, dropNext := drop, staleOwnerReads := stale }
  /-- The next number is taken and nothing else: a dropped transaction, which answers the hash
  of that number, or a creation refused after its number was taken. -/
  | numbered {calls : Nat} {revert drop stale : Bool} :
      (∀ txHash, event.txHash? = some txHash → ∃ source data,
        event.signed? = some (source, data) ∧
          txHash = transactionHash source (chain.txCount + 1) data) →
      event.receipt? = none → event.created? = none →
      Books chain event
        { chain with
          txCount := chain.txCount + 1, mutatingCalls := calls, revertNext := revert,
          dropNext := drop, staleOwnerReads := stale }
  /-- Included in a new block, with the hash of the next number and a receipt naming the block
  and the gas the sender pays for. -/
  | included {source : Address} {data : Bytes} {receipt : Receipt} {gasUsed : Nat}
      {contracts : Table Address Collection} {calls : Nat} {revert drop stale : Bool} :
      event.signed? = some (source, data) →
      event.txHash? = some (transactionHash source (chain.txCount + 1) data) →
      event.receipt? = some receipt → receipt.blockNumber = chain.blockNumber + 1 →
      receipt.gasUsed = gasUsed → ContractsMove chain source event contracts →
      Books chain event
        (Chain.includeFrom
          { chain with
            txCount := chain.txCount + 1, contracts, mutatingCalls := calls,
            revertNext := revert, dropNext := drop, staleOwnerReads := stale }
          source gasUsed)

variable {chain chain' : Chain} {event : Event}

/-- An event that leaves the chain as it was, answering no transaction. -/
theorem Event.Books.of_eq (h : chain' = chain) (hhash : event.txHash? = none)
    (hreceipt : event.receipt? = none) (hcreated : event.created? = none) :
    event.Books chain chain' := by
  subst h
  exact .idle hhash hreceipt hcreated

/-- A read of the chain through an operation that only looks at the state. -/
theorem answers_keeps {α : Type} {f : Chain → α} {r : Except ClientError α}
    (h : (do pure (f (← getThe Chain)) : SimM α).Answers chain r chain') : chain' = chain := by
  have hend : Ends (do pure (f (← getThe Chain)) : SimM α) chain (.ok (f chain)) chain :=
    (ends_getThe chain).bind_ok (ends_pure _ _)
  exact (hend.answers_eq h).2

/-- The latest block ends on the chain as it was, or halts computing its timestamp. -/
theorem latestBlock_ends (chain : Chain) :
    (∃ snapshot, chain.snapshotOf = .ok snapshot ∧ Ends latestBlock chain (.ok snapshot) chain) ∨
      Halts latestBlock chain := by
  rcases hsnapshot : chain.snapshotOf with overflow | snapshot
  · exact .inr ((ends_getThe chain).bind_halts (halts_checked hsnapshot _))
  · exact .inl ⟨snapshot, rfl, (ends_getThe chain).bind_ok (ends_checked hsnapshot _)⟩

theorem latestBlock_keeps {r : Except ClientError BlockSnapshot}
    (h : latestBlock.Answers chain r chain') : chain' = chain := by
  rcases latestBlock_ends chain with ⟨snapshot, -, hend⟩ | hhalts
  · exact (hend.answers_eq h).2
  · exact absurd h hhalts.not_answers

/-- A creation, by its six endings. -/
theorem DeployEnd.books {source : Address} {bytecode args : Bytes}
    {r : Except ClientError Deployment} (h : DeployEnd chain source bytecode args r chain') :
    (Event.call (.deploy source bytecode args r)).Books chain chain' := by
  cases h with
  | unknownSigner => exact .idle rfl rfl rfl
  | emptyCode => exact .idle rfl rfl rfl
  | dropped =>
    refine .numbered ?_ rfl rfl
    intro txHash hhash
    cases hhash
    exact ⟨source, bytecode ++ args, rfl, rfl⟩
  | premintFailed => exact .numbered (fun _ hhash => by cases hhash) rfl rfl
  | reverted => exact .included rfl rfl rfl rfl rfl (.keep rfl)
  | created => exact .included rfl rfl rfl rfl rfl (.create rfl)

/-- A call, by its six endings. -/
theorem SendEnd.books {source target : Address} {call : Call} {t : Except ClientError TxOutcome}
    (h : SendEnd chain source target call t chain') :
    (Event.call (.send source target call t)).Books chain chain' := by
  cases h with
  | unknownSigner => exact .idle rfl rfl rfl
  | unknownContract => exact .idle rfl rfl rfl
  | dropped =>
    refine .numbered ?_ rfl rfl
    intro txHash hhash
    cases hhash
    exact ⟨source, call.calldata, rfl, rfl⟩
  | revertedOnRequest => exact .included rfl rfl rfl rfl rfl (.keep rfl)
  | reverted => exact .included rfl rfl rfl rfl rfl (.keep rfl)
  | executed _ _ _ hcollection =>
    exact .included rfl rfl rfl rfl rfl (.replace rfl (contains_of_get? hcollection))

/-- What every event does to the books, read off the endings of each operation. -/
theorem Event.Step.books (h : event.Step chain chain') : event.Books chain chain' := by
  cases event with
  | call exchange =>
    cases exchange with
    | chainId r => exact .of_eq (answers_keeps h) rfl rfl rfl
    | signers r => exact .of_eq (answers_keeps h) rfl rfl rfl
    | balance account r => exact .of_eq (answers_keeps h) rfl rfl rfl
    | snapshot r => exact .of_eq (latestBlock_keeps h) rfl rfl rfl
    | deploy source bytecode args r => exact (DeployEnd.of_answers h).books
    | send source target call t => exact (SendEnd.of_answers h).books
    | read target call r => exact .of_eq (read_keeps h) rfl rfl rfl
  | revertNext =>
    rw [switch_answers h]
    exact .idle rfl rfl rfl
  | dropNext =>
    rw [switch_answers h]
    exact .idle rfl rfl rfl
  | staleOwnerReads enabled =>
    rw [switch_answers h]
    exact .idle rfl rfl rfl

/-! ### The chain answers each event one way -/

/-- An operation that ends in one way, or halts, leaves one state whatever run of it answered. -/
theorem answers_unique {α : Type} {op : SimM α} {r₁ r₂ : Except ClientError α}
    {chain₁ chain₂ : Chain} (hop : (∃ r c, Ends op chain r c) ∨ Halts op chain)
    (h₁ : op.Answers chain r₁ chain₁) (h₂ : op.Answers chain r₂ chain₂) : chain₁ = chain₂ := by
  rcases hop with ⟨r, c, hend⟩ | hhalts
  · rw [(hend.answers_eq h₁).2, (hend.answers_eq h₂).2]
  · exact absurd h₁ hhalts.not_answers

/-- The simulated chain is deterministic: an event leaves one state. -/
theorem Event.Step.unique {chain₁ chain₂ : Chain} (h₁ : event.Step chain chain₁)
    (h₂ : event.Step chain chain₂) : chain₁ = chain₂ := by
  cases event with
  | call exchange =>
    cases exchange with
    | chainId r =>
      refine answers_unique ?_ h₁ h₂
      exact .inl ⟨_, _, (ends_getThe chain).bind_ok (ends_pure _ _)⟩
    | signers r =>
      refine answers_unique ?_ h₁ h₂
      exact .inl ⟨_, _, (ends_getThe chain).bind_ok (ends_pure _ _)⟩
    | balance account r =>
      refine answers_unique ?_ h₁ h₂
      exact .inl ⟨_, _, (ends_getThe chain).bind_ok (ends_pure _ _)⟩
    | snapshot r =>
      refine answers_unique ?_ h₁ h₂
      rcases latestBlock_ends chain with ⟨snapshot, -, hend⟩ | hhalts
      · exact .inl ⟨_, _, hend⟩
      · exact .inr hhalts
    | deploy source bytecode args r =>
      obtain ⟨r₀, chain₀, hend⟩ := deployEnd_exists chain source bytecode args
      exact answers_unique (.inl ⟨r₀, chain₀, hend.ends⟩) h₁ h₂
    | send source target call t =>
      refine answers_unique ?_ h₁ h₂
      rcases sendEnd_exists chain source target call with ⟨t₀, chain₀, hend⟩ | hhalts
      · exact .inl ⟨t₀, chain₀, hend.ends⟩
      · exact .inr hhalts
    | read target call r =>
      refine answers_unique ?_ h₁ h₂
      rcases read_ends chain target call with ⟨r₀, hend⟩ | hhalts
      · exact .inl ⟨r₀, chain, hend⟩
      · exact .inr hhalts
  | revertNext => exact answers_unique (.inl ⟨_, _, ends_modifyThe _ chain⟩) h₁ h₂
  | dropNext => exact answers_unique (.inl ⟨_, _, ends_modifyThe _ chain⟩) h₁ h₂
  | staleOwnerReads enabled => exact answers_unique (.inl ⟨_, _, ends_modifyThe _ chain⟩) h₁ h₂

/-- A run leaves one state. -/
theorem Runs.unique {events : List Event} {chain₁ chain₂ : Chain} (h₁ : Runs chain events chain₁)
    (h₂ : Runs chain events chain₂) : chain₁ = chain₂ := by
  induction events generalizing chain with
  | nil => exact h₁.symm.trans h₂
  | cons event events ih =>
    obtain ⟨chain', hstep, hrest⟩ := h₁
    obtain ⟨chain'', hstep', hrest'⟩ := h₂
    obtain rfl := hstep.unique hstep'
    exact ih hrest hrest'

/-! ### A creation -/

/-- The creation of a contract administered by `1`, by the first signer. -/
def adminOneCreation (answer : Except ClientError Deployment) : Event :=
  .call (.deploy (signerAddress 0) demoBytecode (encode [.address (Address.ofNatWrap 1)]) answer)

/-- On a chain that signs for the first signer, with no switch set and no initial supply, that
creation creates its contract in a new block, takes one number and leaves the signers and the
switches as they were. -/
theorem adminOneCreation_creates {chain : Chain}
    (hsigner : chain.signers.contains (signerAddress 0) = true) (hdrop : chain.dropNext = false)
    (hrevert : chain.revertNext = false) (hsupply : chain.config.premintedSupply = 0) :
    ∃ r chain', (adminOneCreation r).Step chain chain' ∧ chain'.signers = chain.signers ∧
      chain'.dropNext = false ∧ chain'.revertNext = false ∧ chain'.config = chain.config ∧
      chain'.txCount = chain.txCount + 1 ∧ chain'.blockNumber = chain.blockNumber + 1 ∧
      (adminOneCreation r).created?.isSome := by
  have hpremint : premint (chain.creationAddress (signerAddress 0)) (Address.ofNatWrap 1)
      chain.config.premintedSupply (Collection.create (Address.ofNatWrap 1)) =
        .ok (Collection.create (Address.ofNatWrap 1), []) := by
    rw [hsupply]
    rfl
  exact ⟨_, _,
    (DeployEnd.created hsigner (by decide) hdrop (by rfl) rfl hrevert hpremint).ends.answers,
    rfl, rfl, rfl, rfl, rfl, rfl, rfl⟩

end NftProbe.Sim
