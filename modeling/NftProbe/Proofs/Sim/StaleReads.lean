import NftProbe.Proofs.Sim.Reads

/-!
# Stale owner reads

While stale owner reads are on, a transfer that passes remembers the token's owner before it,
unless the contract already remembers one for the token; the remembered owners are never
changed and never cleared, and a read of an owner with stale reads on answers the remembered
owner where there is one (`Collection.shownOwner`).

So what a stale read answers depends on the whole history of the token, not on its last
transfer. One transaction keeps every remembered owner and remembers a new one only as such a
transfer (`Operation.Step.remembered`); along a run of operations, each creation landing on an
address that holds no contract (`Operation.FreshRuns`, which every run from a reachable state is
unless two creation preimages clash, `Operation.Runs.freshRuns_or_clashes`), a remembered owner
therefore stays (`FreshRuns.remembered_stays`), and a token has one remembered at the end
exactly when it passed a transfer while stale reads were on and nothing was remembered for it
(`StaleMove`), the first such transfer of the run. With stale reads on at the end, a read of the
token's owner answers the owner before that first transfer, and the token's owner when there was
none (`stale_read_shows_first_owner`). After two transfers of a token with stale reads on, the read
answers the first owner, not the owner before the latest transfer
(`stale_read_after_two_moves`).
-/

set_option autoImplicit false

namespace NftProbe.Sim

open Abi Contract

variable {chain chain' : Chain} {target : Address} {c c' : Collection} {tokenId : Nat}

/-! ### One transaction -/

namespace Collection

@[simp] theorem transferred_staleOwners_get?_self {owner receiver : Address}
    (hnone : c.staleOwners.get? tokenId = none) :
    (c.transferred true owner receiver tokenId).staleOwners.get? tokenId = some owner := by
  have hcontains : c.staleOwners.contains tokenId = false := by
    simp [Table.contains_eq_isSome_get?, hnone]
  simp [transferred, hcontains]

/-- A transaction keeps the owner the contract remembers for a token, and remembers one where
there was none only as a transfer of the token, run with stale reads on, from its owner. -/
theorem execute_remembered {stale : Bool} {contract caller : Address} {calldata : Bytes}
    {logs : List LogEntry}
    (h : (execute stale contract caller calldata c).run = .ok (.ok (c', logs))) (tokenId : Nat) :
    c'.staleOwners.get? tokenId = c.staleOwners.get? tokenId ∨
      (stale = true ∧ c.staleOwners.get? tokenId = none ∧
        ∃ owner receiver, c.owners.get? tokenId = some owner ∧
          c' = c.transferred true owner receiver tokenId) := by
  rcases execute_cases h with ⟨-, hkept⟩ | ⟨moved, owner, receiver, howner, -, rfl⟩
  · exact .inl (by rw [hkept])
  by_cases hsame : moved = tokenId
  · subst hsame
    by_cases hremember : stale = true ∧ c.staleOwners.contains moved = false
    · obtain ⟨rfl, hcontains⟩ := hremember
      refine .inr ⟨rfl, ?_, owner, receiver, howner, rfl⟩
      simpa [Table.contains_eq_isSome_get?] using hcontains
    · have hkeep : (stale && !c.staleOwners.contains moved) = false := by
        cases stale <;> cases hcontains : c.staleOwners.contains moved <;> simp_all
      exact .inl (by simp [hkeep])
  · refine .inl ?_
    split <;> simp [hsame]

end Collection

/-! ### One operation -/

/-- What one operation does to the owners a contract remembers, when it creates no contract over
it: the contract stays, keeping each remembered owner, and remembers a new one for a token only
as a transfer of the token that passes while stale reads are on, with nothing remembered for it,
from its owner. -/
theorem Operation.Step.remembered {op : Operation} (hstep : op.Step chain chain')
    (hfresh : op.Fresh chain) (hc : chain.contracts.get? target = some c) :
    ∃ c', chain'.contracts.get? target = some c' ∧ ∀ tokenId,
      c'.staleOwners.get? tokenId = c.staleOwners.get? tokenId ∨
        (chain.staleOwnerReads = true ∧ c.staleOwners.get? tokenId = none ∧
          ∃ owner receiver, c.owners.get? tokenId = some owner ∧
            c' = c.transferred true owner receiver tokenId) := by
  have hcontracts := hstep.contracts
  generalize chain'.contracts = table at hcontracts ⊢
  cases hcontracts with
  | keep => exact ⟨c, hc, fun _ => .inl rfl⟩
  | @execute source called call c₀ c₁ logs hcollection hexecute =>
    by_cases hcalled : called = target
    · subst hcalled
      rw [hc] at hcollection
      cases hcollection
      exact ⟨c₁, by simp, Collection.execute_remembered hexecute⟩
    · exact ⟨c, by simp [hcalled, hc], fun _ => .inl rfl⟩
  | @create source bytecode args admin c₁ logs hpremint =>
    have hother : chain.creationAddress source ≠ target := by
      rintro rfl
      simp [Operation.Fresh, Table.contains_eq_isSome_get?, hc] at hfresh
    exact ⟨c, by simp [hother, hc], fun _ => .inl rfl⟩

/-- A call leaves the stale reads switch as it was. -/
theorem send_staleOwnerReads {source called : Address} {call : Call}
    {t : Except ClientError TxOutcome} (h : (send source called call).Answers chain t chain') :
    chain'.staleOwnerReads = chain.staleOwnerReads := by
  cases SendEnd.of_answers h <;> rfl

/-! ### Runs of operations -/

/-- The operations happen one after the other from `chain` and leave `chain''`, each creation
landing on an address that holds no contract. -/
def Operation.FreshRuns : Chain → List Operation → Chain → Prop
  | chain, [], chain' => chain = chain'
  | chain, op :: ops, chain'' =>
    op.Fresh chain ∧ ∃ chain', op.Step chain chain' ∧ Operation.FreshRuns chain' ops chain''

open Operation

/-- Along a run, a contract stays, and every owner it remembers stays remembered: later transfers
and switching stale reads off and on change none. -/
theorem Operation.FreshRuns.remembered_stays {ops : List Operation}
    (hrun : FreshRuns chain ops chain') (hc : chain.contracts.get? target = some c) :
    ∃ c', chain'.contracts.get? target = some c' ∧
      ∀ tokenId owner, c.staleOwners.get? tokenId = some owner →
        c'.staleOwners.get? tokenId = some owner := by
  induction ops generalizing chain c with
  | nil =>
    obtain rfl : chain = chain' := hrun
    exact ⟨c, hc, fun _ _ h => h⟩
  | cons op ops ih =>
    obtain ⟨hfresh, chain₁, hstep, hrest⟩ := hrun
    obtain ⟨c₁, hc₁, hremembered⟩ := hstep.remembered hfresh hc
    obtain ⟨c', hc', hstays⟩ := ih hrest hc₁
    refine ⟨c', hc', fun tokenId owner howner => hstays tokenId owner ?_⟩
    rcases hremembered tokenId with hkept | ⟨-, hnone, -⟩
    · rw [hkept, howner]
    · rw [howner] at hnone
      cases hnone

/-- During the run of `ops` from `chain` to `chain'`, token `tokenId` of the contract at
`target` passed a transfer from `owner` while stale reads were on and nothing was remembered
for it: the first transfer of the token made with stale reads on. -/
def StaleMove (target : Address) (tokenId : Nat) (chain : Chain) (ops : List Operation)
    (chain' : Chain) (owner : Address) : Prop :=
  ∃ pre op post chain₁ chain₂ c₁ receiver, ops = pre ++ op :: post ∧ FreshRuns chain pre chain₁ ∧
    op.Fresh chain₁ ∧ op.Step chain₁ chain₂ ∧ FreshRuns chain₂ post chain' ∧
    chain₁.staleOwnerReads = true ∧ chain₁.contracts.get? target = some c₁ ∧
    c₁.staleOwners.get? tokenId = none ∧ c₁.owners.get? tokenId = some owner ∧
    chain₂.contracts.get? target = some (c₁.transferred true owner receiver tokenId)

/-- The first transfer made with stale reads on remembers the owner before it for good. -/
theorem StaleMove.remembered {ops : List Operation} {owner : Address}
    (hmove : StaleMove target tokenId chain ops chain' owner)
    (hc' : chain'.contracts.get? target = some c') :
    c'.staleOwners.get? tokenId = some owner := by
  obtain ⟨_, _, post, _, chain₂, c₁, receiver, -, -, -, -, hpost, -, -, hnone, -, hc₂⟩ := hmove
  obtain ⟨c'', hc'', hstays⟩ := FreshRuns.remembered_stays hpost hc₂
  rw [hc'] at hc''
  cases hc''
  exact hstays tokenId owner (Collection.transferred_staleOwners_get?_self hnone)

/-- A token that nothing was remembered for at the start of a run has an owner remembered at its
end only through a first transfer made with stale reads on. -/
theorem Operation.FreshRuns.staleMove_of_remembered {ops : List Operation}
    (hrun : FreshRuns chain ops chain') (hc : chain.contracts.get? target = some c)
    (hnone : c.staleOwners.get? tokenId = none) (hc' : chain'.contracts.get? target = some c')
    {owner : Address} (howner : c'.staleOwners.get? tokenId = some owner) :
    StaleMove target tokenId chain ops chain' owner := by
  induction ops generalizing chain c with
  | nil =>
    obtain rfl : chain = chain' := hrun
    rw [hc] at hc'
    cases hc'
    rw [hnone] at howner
    cases howner
  | cons op ops ih =>
    obtain ⟨hfresh, chain₁, hstep, hrest⟩ := hrun
    obtain ⟨c₁, hc₁, hremembered⟩ := hstep.remembered hfresh hc
    rcases hremembered tokenId with hkept | ⟨hstale, -, first, receiver, hfirst, rfl⟩
    · obtain ⟨pre, op', post, chain₂, chain₃, c₂, receiver, hops, hpre, hmove⟩ :=
        ih hrest hc₁ (hkept.trans hnone)
      exact ⟨op :: pre, op', post, chain₂, chain₃, c₂, receiver, by rw [hops]; rfl,
        ⟨hfresh, chain₁, hstep, hpre⟩, hmove⟩
    · have hmove : StaleMove target tokenId chain (op :: ops) chain' first :=
        ⟨[], op, ops, chain, chain₁, c, receiver, rfl, rfl, hfresh, hstep, hrest, hstale, hc,
          hnone, hfirst, hc₁⟩
      rw [hmove.remembered hc'] at howner
      cases howner
      exact hmove

/-! ### What a stale read answers -/

/-- Stale owner reads, over any run of operations in which creations land on unused addresses,
starting where the contract remembers nothing for the token. With stale reads on at the end, a
read of the token's owner answers the owner before the first transfer of the token that passed
while stale reads were on, however many transfers followed and however often stale reads were
switched off and on; without such a transfer it answers the token's owner, and fails for a token
that was never minted. -/
theorem stale_read_shows_first_owner {ops : List Operation} (hrun : FreshRuns chain ops chain')
    (hc : chain.contracts.get? target = some c) (hnone : c.staleOwners.get? tokenId = none)
    (hstale : chain'.staleOwnerReads = true) (hid : tokenId ≤ u64Max) :
    ∃ c', chain'.contracts.get? target = some c' ∧
      (∀ owner, StaleMove target tokenId chain ops chain' owner →
        Ends (read target (ownerOf tokenId)) chain' (.ok [.address owner]) chain') ∧
      ((∀ owner, ¬StaleMove target tokenId chain ops chain' owner) →
        Ends (read target (ownerOf tokenId)) chain'
          (((c'.ownerOf tokenId).map fun owner => [.address owner]).mapError
            fun reason => .execution ("execution reverted: " ++ reason)) chain') := by
  obtain ⟨c', hc', -⟩ := hrun.remembered_stays hc
  refine ⟨c', hc', fun owner hmove => read_ownerOf_of_shown hc' hid ?_, fun hnomove => ?_⟩
  · rw [hstale]
    simp [Collection.shownOwner, hmove.remembered hc']
  · have hread := read_ownerOf hc' hid
    rw [hstale] at hread
    have hforgot : c'.staleOwners.get? tokenId = none := by
      cases hget : c'.staleOwners.get? tokenId with
      | none => rfl
      | some owner => exact absurd (hrun.staleMove_of_remembered hc hnone hc' hget) (hnomove owner)
    have hshown : c'.shownOwner true tokenId = c'.ownerOf tokenId := by
      simp [Collection.shownOwner, hforgot]
    rwa [hshown] at hread

/-- The first signer's contract on a chain that mints one token at each creation, with stale reads
switched on right after the creation: token 1 is the first signer's, nothing is remembered for it,
and the signers and the switches are those of a fresh chain. -/
theorem Reachable.stale_first_contract :
    ∃ chain c, Reachable { premintedSupply := 1 } chain ∧ chain.staleOwnerReads = true ∧
      chain.contracts.get? ((Chain.create { premintedSupply := 1 }).creationAddress
        (signerAddress 0)) = some c ∧
      c.owners.get? 1 = some (signerAddress 0) ∧ c.staleOwners.get? 1 = none ∧
      chain.signers = (Chain.create { premintedSupply := 1 }).signers ∧
      chain.dropNext = false ∧ chain.revertNext = false := by
  have hzero := Address.ne_zero_of_isZero (signerAddress_isZero (show 0 < 3 by decide))
  obtain ⟨c, logs, hpremint, howner⟩ := premint_one _ hzero
  obtain ⟨chain, hreach, hget, -, -, hsigners, hdrop, hrevert, -⟩ :=
    Reachable.first_creation (show 0 < ({ premintedSupply := 1 } : Config).signerCount by decide)
      hpremint
  have hnone : c.staleOwners.get? 1 = none := by
    rw [(Collection.premint_changes hpremint).2]
    rfl
  exact ⟨{ chain with staleOwnerReads := true }, c,
    hreach.tail ⟨.staleOwnerReads true, _, (ends_modifyThe _ _).answers⟩, rfl, hget, howner, hnone,
    hsigners, hdrop, hrevert⟩

/-- The first signer's contract on a chain that mints one token at each creation, right after the
creation and once stale reads are switched on: nothing moved, so a read of the owner of token 1
answers its owner, the first signer. -/
theorem stale_read_unmoved_owner :
    ∃ chain, Reachable { premintedSupply := 1 } chain ∧ chain.staleOwnerReads = true ∧
      Ends (read ((Chain.create { premintedSupply := 1 }).creationAddress (signerAddress 0))
        (ownerOf 1)) chain (.ok [.address (signerAddress 0)]) chain := by
  obtain ⟨chain, c, hreach, hstale, hget, howner, hnone, -⟩ := Reachable.stale_first_contract
  have hrun : FreshRuns chain [] chain := rfl
  obtain ⟨c', hc', -, hunmoved⟩ :=
    stale_read_shows_first_owner hrun hget hnone hstale (show 1 ≤ u64Max by decide)
  obtain rfl : c' = c := Option.some.inj (hc'.symm.trans hget)
  have hread := hunmoved fun owner hmove => by
    obtain ⟨pre, op, post, _, _, _, _, hops, -⟩ := hmove
    simp at hops
  refine ⟨chain, hreach, hstale, ?_⟩
  simpa [Collection.ownerOf, howner, Except.map, Except.mapError] using hread

/-- A token moved twice while stale reads are on. On a chain that mints one token at each
creation, the first signer's contract switches stale reads on, the first signer moves token 1 to
the second signer, who moves it on to the third. Both transfers pass, and a read of the owner
then answers the first signer, not the second, whose token it was before the latest transfer. -/
theorem stale_read_after_two_moves :
    ∃ chain₁ chain₂ chain₃ receipt receipt',
      Reachable { premintedSupply := 1 } chain₁ ∧ chain₁.staleOwnerReads = true ∧
      Ends (send (signerAddress 0) ((Chain.create { premintedSupply := 1 }).creationAddress
          (signerAddress 0)) (transferFrom (signerAddress 0) (signerAddress 1) 1)) chain₁
        (.ok (.included receipt)) chain₂ ∧ receipt.status = true ∧
      Ends (send (signerAddress 1) ((Chain.create { premintedSupply := 1 }).creationAddress
          (signerAddress 0)) (transferFrom (signerAddress 1) (signerAddress 2) 1)) chain₂
        (.ok (.included receipt')) chain₃ ∧ receipt'.status = true ∧
      Ends (read ((Chain.create { premintedSupply := 1 }).creationAddress (signerAddress 0))
        (ownerOf 1)) chain₃ (.ok [.address (signerAddress 0)]) chain₃ ∧
      signerAddress 0 ≠ signerAddress 1 := by
  have hzero₁ := Address.ne_zero_of_isZero (signerAddress_isZero (show 1 < 3 by decide))
  have hzero₂ := Address.ne_zero_of_isZero (signerAddress_isZero (show 2 < 3 by decide))
  have hdistinct : signerAddress 0 ≠ signerAddress 1 := by
    rw [deployerAccount.property, firstUserAccount.property]
    decide
  obtain ⟨chain₁, c, hreach₁, hstale₁, hget, howner, hnone, hsigners, hdrop, hrevert⟩ :=
    Reachable.stale_first_contract
  have hsigner : ∀ index < 3, chain₁.signers.contains (signerAddress index) = true :=
    fun index hindex => by
      rw [hsigners]
      exact Chain.create_signers_contains hindex
  generalize (Chain.create { premintedSupply := 1 }).creationAddress (signerAddress 0) = address
    at hget ⊢
  obtain ⟨receipt, chain₂, hends, hsigners₂, hdrop₂, hrevert₂, hiff, hmoved, -⟩ :=
    transferFrom_receipt (signerAddress 0) (signerAddress 1) (hsigner 0 (by decide)) hdrop hrevert
      hget (show 1 ≤ u64Max by decide)
  have hstatus : receipt.status = true :=
    hiff.2 ⟨howner, by simp [Collection.authorized], hzero₁⟩
  have hget₂ : chain₂.contracts.get? address =
      some (c.transferred true (signerAddress 0) (signerAddress 1) 1) := by
    rw [hmoved hstatus, hstale₁]
    simp
  have hstale₂ : chain₂.staleOwnerReads = true :=
    (send_staleOwnerReads hends.answers).trans hstale₁
  obtain ⟨receipt', chain₃, hends', -, -, -, hiff', hmoved', -⟩ :=
    transferFrom_receipt (signerAddress 1) (signerAddress 2) (hsigners₂ ▸ hsigner 1 (by decide))
      hdrop₂ hrevert₂ hget₂ (show 1 ≤ u64Max by decide)
  have hstatus' : receipt'.status = true :=
    hiff'.2 ⟨by simp [Collection.transferred], by simp [Collection.authorized], hzero₂⟩
  have hget₃ : chain₃.contracts.get? address =
      some ((c.transferred true (signerAddress 0) (signerAddress 1) 1).transferred true
        (signerAddress 1) (signerAddress 2) 1) := by
    rw [hmoved' hstatus', hstale₂]
    simp
  have hstale₃ : chain₃.staleOwnerReads = true :=
    (send_staleOwnerReads hends'.answers).trans hstale₂
  have hshown : ((c.transferred true (signerAddress 0) (signerAddress 1) 1).transferred true
      (signerAddress 1) (signerAddress 2) 1).shownOwner chain₃.staleOwnerReads 1 =
      .ok (signerAddress 0) := by
    rw [hstale₃]
    simp [Collection.shownOwner, Collection.transferred, Table.contains_eq_isSome_get?, hnone]
  exact ⟨chain₁, chain₂, chain₃, receipt, receipt', hreach₁, hstale₁, hends, hstatus, hends',
    hstatus', read_ownerOf_of_shown hget₃ (show 1 ≤ u64Max by decide) hshown, hdistinct⟩

end NftProbe.Sim
