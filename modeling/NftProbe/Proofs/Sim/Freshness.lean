import NftProbe.Proofs.Sim.Identities
import NftProbe.Proofs.Sim.StaleReads

/-!
# Creations land on unused addresses

The laws of lasting contracts and of stale owner reads follow runs in which every creation lands
on an address that holds no contract (`Chain.FreshRun`, `Operation.FreshRuns`). Every run from a
fresh chain is such a run, unless Keccak-256 maps two creation preimages to the address of one
of the chain's contracts (`Chain.Clashes`).

An operation that answers is an event of the chain's books (`Operation.Step.event`), so every
reachable state is counted (`Reachable.counted`): each of its contracts stands at a creation
whose nonce its creator has since passed. A creation uses its creator's current nonce, so on a
counted chain whose transaction count is a 64-bit number an operation lands its creation on an
unused address, or the address it would use clashes (`Operation.fresh_or_clashes`, from
`Chain.Counted.clash_of_contains`). Every step of a run from a counted state starts counted, so
the run is fresh or its last state clashes (`Operation.Runs.freshRuns_or_clashes`), and a fresh
run of operations is a fresh run of steps (`Operation.FreshRuns.freshRun`). Through every run
from a reachable state whose count stays 64-bit, each contract therefore lives on, changed only
by the transactions it runs, or the last state clashes (`Reachable.contracts_last_or_clash`).
-/

set_option autoImplicit false

namespace NftProbe.Sim

variable {config : Config} {chain chain' : Chain} {op : Operation}

/-- Two creation preimages give the address of one of the chain's contracts. -/
def Chain.Clashes (chain : Chain) : Prop :=
  ∃ address, chain.contracts.contains address = true ∧ AddressClash address

theorem Chain.Clashes.of_advances (h : chain.Clashes) (hadvances : chain.Advances chain') :
    chain'.Clashes := by
  obtain ⟨address, hcontains, hclash⟩ := h
  exact ⟨address, hadvances.contains address hcontains, hclash⟩

/-- An operation that answers is an event: the call with the answer it gave, or the switch it
set, which always answers. -/
theorem Operation.Step.event (h : op.Step chain chain') :
    ∃ event : Event, event.Step chain chain' := by
  cases op with
  | deploy source bytecode args =>
    obtain ⟨r, hanswer⟩ := h
    exact ⟨.call (.deploy source bytecode args r), hanswer⟩
  | send source target call =>
    obtain ⟨r, hanswer⟩ := h
    exact ⟨.call (.send source target call r), hanswer⟩
  | read target call =>
    obtain ⟨r, hanswer⟩ := h
    exact ⟨.call (.read target call r), hanswer⟩
  | revertNext =>
    obtain ⟨r, hanswer⟩ := h
    obtain ⟨rfl, -⟩ := (ends_modifyThe _ chain).answers_eq hanswer
    exact ⟨.revertNext, hanswer⟩
  | dropNext =>
    obtain ⟨r, hanswer⟩ := h
    obtain ⟨rfl, -⟩ := (ends_modifyThe _ chain).answers_eq hanswer
    exact ⟨.dropNext, hanswer⟩
  | staleOwnerReads enabled =>
    obtain ⟨r, hanswer⟩ := h
    obtain ⟨rfl, -⟩ := (ends_modifyThe _ chain).answers_eq hanswer
    exact ⟨.staleOwnerReads enabled, hanswer⟩

theorem Operation.Step.counted (h : op.Step chain chain') (hc : chain.Counted) :
    chain'.Counted := by
  obtain ⟨event, hevent⟩ := h.event
  exact hevent.books.counted hc

theorem Operation.Step.advances (h : op.Step chain chain') : chain.Advances chain' := by
  obtain ⟨event, hevent⟩ := h.event
  exact hevent.books.advances

theorem Reachable.counted (h : Reachable config chain) : chain.Counted := by
  induction h with
  | refl => exact Chain.counted_create config
  | tail _ hstep ih =>
    obtain ⟨op, hop⟩ := hstep
    exact hop.counted ih

/-- On a counted chain whose transaction count is a 64-bit number, an operation lands its
creation on an unused address, or the chain clashes at the address the creation would use. -/
theorem Operation.fresh_or_clashes (hc : chain.Counted) (hfits : chain.txCount ≤ u64Max)
    (op : Operation) : op.Fresh chain ∨ chain.Clashes := by
  cases op with
  | deploy source bytecode args =>
    cases hcontains : chain.contracts.contains (chain.creationAddress source) with
    | false => exact .inl hcontains
    | true => exact .inr ⟨_, hcontains, hc.clash_of_contains hfits hcontains⟩
  | send source target call => exact .inl trivial
  | read target call => exact .inl trivial
  | revertNext => exact .inl trivial
  | dropNext => exact .inl trivial
  | staleOwnerReads enabled => exact .inl trivial

/-! ### Runs of operations -/

/-- The operations happen one after the other from `chain` and leave `chain''`. -/
def Operation.Runs : Chain → List Operation → Chain → Prop
  | chain, [], chain' => chain = chain'
  | chain, op :: ops, chain'' =>
    ∃ chain', op.Step chain chain' ∧ Operation.Runs chain' ops chain''

theorem Operation.Runs.advances {ops : List Operation} (h : Operation.Runs chain ops chain') :
    chain.Advances chain' := by
  induction ops generalizing chain with
  | nil =>
    subst h
    exact Chain.Advances.refl chain
  | cons op ops ih =>
    obtain ⟨chain₁, hstep, hrest⟩ := h
    exact hstep.advances.trans (ih hrest)

/-- A run in which creations land on unused addresses is a run of fresh steps. -/
theorem Operation.FreshRuns.freshRun {ops : List Operation}
    (h : Operation.FreshRuns chain ops chain') : chain.FreshRun chain' := by
  induction ops generalizing chain with
  | nil =>
    subst h
    exact .refl
  | cons op ops ih =>
    obtain ⟨hfresh, chain₁, hstep, hrest⟩ := h
    exact .head ⟨op, hfresh, hstep⟩ (ih hrest)

/-- From a counted chain, a run of operations whose transaction count stays a 64-bit number
lands every creation on an unused address, or its last state clashes. -/
theorem Operation.Runs.freshRuns_or_clashes {ops : List Operation} (hc : chain.Counted)
    (hrun : Operation.Runs chain ops chain') (hfits : chain'.txCount ≤ u64Max) :
    Operation.FreshRuns chain ops chain' ∨ chain'.Clashes := by
  induction ops generalizing chain with
  | nil => exact .inl hrun
  | cons op ops ih =>
    obtain ⟨chain₁, hstep, hrest⟩ := hrun
    have hadvances : chain.Advances chain' := hstep.advances.trans hrest.advances
    rcases op.fresh_or_clashes hc (hadvances.txCount_le.trans hfits) with hfresh | hclash
    · rcases ih (hstep.counted hc) hrest with hfreshRuns | hclash
      · exact .inl ⟨hfresh, chain₁, hstep, hfreshRuns⟩
      · exact .inr hclash
    · exact .inr (hclash.of_advances hadvances)

/-- From a reachable state, through every run of operations whose transaction count stays a
64-bit number, every contract stays where it is, changed only by the transactions it runs: its
admin stays, its next id never goes down and no minted token leaves its owners. Unless the last
state clashes. -/
theorem Reachable.contracts_last_or_clash {ops : List Operation} (hreach : Reachable config chain)
    (hrun : Operation.Runs chain ops chain') (hfits : chain'.txCount ≤ u64Max) :
    (∀ address c, chain.contracts.get? address = some c →
      ∃ c', chain'.contracts.get? address = some c' ∧
        Relation.ReflTransGen Collection.Executes c c' ∧ c.Grows c') ∨
      chain'.Clashes := by
  rcases hrun.freshRuns_or_clashes hreach.counted hfits with hfresh | hclash
  · exact .inl hfresh.freshRun.lasting
  · exact .inr hclash

end NftProbe.Sim
