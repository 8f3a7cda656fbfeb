import NftProbe.Proofs.Sim.Calls

/-!
# What a transaction changes

A creation or a call that answers changes the chain in one of five ways (`TxEffect`), read off
how it answered. Every way counts the call once. A call refused before it takes a
transaction number changes nothing else, and the fault switches stay set for the next call. A
dropped call takes a number and spends the drop switch, leaving the revert switch for later.
A call included with status false opens a new block that charges the sender and moves its
nonce on, spends the revert switch, and leaves every contract as it was, so a batch that fails
at one recipient keeps none of the tokens minted before it. Only a successful call changes
the contracts.

The fifth way is a creation refused after it took its number: its constructor minted the
initial supply to the zero address. Such a creation answers an error, yet the transaction
count has moved on (`zero_admin_creation_numbered`), so the next transaction gets the hash of
the count after it.
-/

set_option autoImplicit false

namespace NftProbe.Sim

open Contract Abi

/-- What a creation or call from `source` that uses `gasUsed` changes, by how it answered. -/
inductive TxEffect (chain : Chain) (source : Address) (gasUsed : Nat) :
    Except ClientError TxOutcome → Chain → Prop
  /-- Refused before it was numbered: only the call is counted. -/
  | refused {error : ClientError} :
      TxEffect chain source gasUsed (.error error)
        { chain with mutatingCalls := chain.mutatingCalls + 1 }
  /-- Refused after it was numbered, with neither switch set: counted and numbered. -/
  | refusedNumbered {error : ClientError} : chain.dropNext = false → chain.revertNext = false →
      TxEffect chain source gasUsed (.error error) chain.numbered
  /-- Dropped: numbered, and the drop switch is spent. -/
  | dropped {txHash : Hash32} : chain.dropNext = true →
      TxEffect chain source gasUsed (.ok (.pending txHash)) { (chain.numbered) with dropNext := false }
  /-- Included with status false: a new block charges the sender, and the contracts stay. -/
  | reverted {receipt : Receipt} : chain.dropNext = false → receipt.status = false →
      TxEffect chain source gasUsed (.ok (.included receipt)) (chain.started.includeFrom source gasUsed)
  /-- Included with status true, with neither switch set: the contracts may change. -/
  | succeeded {receipt : Receipt} {contracts : Table Address Collection} :
      chain.dropNext = false → chain.revertNext = false → receipt.status = true →
      TxEffect chain source gasUsed (.ok (.included receipt))
        (Chain.includeFrom { chain.started with contracts } source gasUsed)

variable {chain chain' : Chain} {source : Address}

theorem Chain.started_eq_numbered (hdrop : chain.dropNext = false)
    (hrevert : chain.revertNext = false) : chain.started = chain.numbered := by
  cases chain
  simp_all [Chain.started, Chain.numbered]

/-- The ways a creation ends, as effects. -/
theorem DeployEnd.effect {bytecode args : Bytes} {r : Except ClientError Deployment}
    (h : DeployEnd chain source bytecode args r chain') :
    TxEffect chain source (executionGas (bytecode ++ args) deployGas) (r.map Deployment.outcome)
      chain' := by
  cases h with
  | unknownSigner => exact .refused
  | emptyCode => exact .refused
  | dropped _ _ hdrop => exact .dropped hdrop
  | premintFailed _ _ hdrop _ _ hrevert =>
    rw [Chain.started_eq_numbered hdrop hrevert]
    exact .refusedNumbered hdrop hrevert
  | reverted _ _ hdrop => exact .reverted hdrop rfl
  | created _ _ hdrop _ _ hrevert => exact .succeeded hdrop hrevert rfl

/-- The ways a call ends, as effects. -/
theorem SendEnd.effect {target : Address} {call : Call} {t : Except ClientError TxOutcome}
    (h : SendEnd chain source target call t chain') :
    TxEffect chain source (executionGas call.calldata (callGas call)) t chain' := by
  cases h with
  | unknownSigner => exact .refused
  | unknownContract => exact .refused
  | dropped _ _ hdrop => exact .dropped hdrop
  | revertedOnRequest _ _ hdrop => exact .reverted hdrop rfl
  | reverted _ hdrop => exact .reverted hdrop rfl
  | executed _ hdrop hrevert => exact .succeeded hdrop hrevert rfl

/-- Every creation and call that answers counts itself once and changes the chain as
`TxEffect` says: a refusal changes nothing else unless the creation was numbered first, a
dropped call only takes its number and spends the drop switch, and a call included with status
false leaves the contracts and charges only its sender in a new block. -/
theorem transaction_effects (chain chain' : Chain) (source : Address) :
    (∀ bytecode args r, (deploy source bytecode args).Answers chain r chain' →
        TxEffect chain source (executionGas (bytecode ++ args) deployGas)
          (r.map Deployment.outcome) chain') ∧
    (∀ target call t, (send source target call).Answers chain t chain' →
        TxEffect chain source (executionGas call.calldata (callGas call)) t chain') :=
  ⟨fun _ _ _ h => (DeployEnd.of_answers h).effect, fun _ _ _ h => (SendEnd.of_answers h).effect⟩

/-- A creation whose admin is the zero address, on a chain that mints one token to the admin
at creation: the initial mint is refused after the creation took its number. -/
theorem zeroAdminCreation_ends :
    DeployEnd (Chain.create { premintedSupply := 1 }) (signerAddress 0) demoBytecode
      (encode [.address Address.zero]) (.error (.execution "ERC721InvalidReceiver(0x0)"))
      (Chain.create { premintedSupply := 1 }).started :=
  .premintFailed (Chain.create_signers_contains (by decide)) (by decide) rfl (by rfl) rfl rfl rfl

/-- The refused creation has the effect of a refusal after numbering. -/
theorem zero_admin_creation_effect :
    (deploy (signerAddress 0) demoBytecode (encode [.address Address.zero])).Answers
        (Chain.create { premintedSupply := 1 }) (.error (.execution "ERC721InvalidReceiver(0x0)"))
        (Chain.create { premintedSupply := 1 }).started ∧
      TxEffect (Chain.create { premintedSupply := 1 }) (signerAddress 0)
        (executionGas (demoBytecode ++ encode [.address Address.zero]) deployGas)
        (.error (.execution "ERC721InvalidReceiver(0x0)"))
        (Chain.create { premintedSupply := 1 }).started :=
  ⟨zeroAdminCreation_ends.ends.answers,
    (transaction_effects _ _ _).1 _ _ _ zeroAdminCreation_ends.ends.answers⟩

/-- The refused creation answers an error, yet the transaction count has moved on. -/
theorem zero_admin_creation_numbered :
    (deploy (signerAddress 0) demoBytecode (encode [.address Address.zero])).Answers
        (Chain.create { premintedSupply := 1 }) (.error (.execution "ERC721InvalidReceiver(0x0)"))
        (Chain.create { premintedSupply := 1 }).started ∧
      (Chain.create { premintedSupply := 1 }).started.txCount =
        (Chain.create { premintedSupply := 1 }).txCount + 1 :=
  ⟨zeroAdminCreation_ends.ends.answers, rfl⟩

end NftProbe.Sim
