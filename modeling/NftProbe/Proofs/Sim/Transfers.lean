import NftProbe.Proofs.Sim.Minting
import NftProbe.Proofs.Abi.Lengths

/-!
# Transfers and approvals on the simulated chain

A transfer names a token, the owner it moves from and its receiver; an approval names a token and
the account it lets move that token. The contract decides a transfer by three checks in turn: the
token is minted and owned by the named owner, the caller may move it (the owner, the account
approved for the token, or an operator of the owner), and the receiver is not zero
(`execute_transferFrom`). A passing transfer moves the token, drops its approval and, while stale
reads are on, remembers the owner before the move (`Collection.transferred`). An approval needs a
minted token and, as caller, its owner or an operator of the owner; it only records the approved
account (`execute_approve`).

No call of the contract sets an operator, so in every contract a run reaches only the owner and
the account approved for a token may move it (`Collection.Sound.authorized_iff`). Sent by a signer
with no fault pending, a transfer or an approval is therefore included in a block with a status
that these checks alone decide, and a refused one leaves every contract as it was
(`transferFrom_receipt`, `approve_receipt`). A passing transfer drops the token's approval, so an
approval is spent by one transfer: right after it, the caller can move the token again only if it
now owns it (`approval_spent`).
-/

set_option autoImplicit false

namespace NftProbe.Sim

open Abi Contract

theorem Token.asU64_uint_ofU64 {n : Nat} (h : n ≤ u64Max) :
    (Token.uint (Word.ofU64 n)).asU64 = .ok n := by
  have hword : (Word.ofNatWrap n).toNat = n := Word.toNat_ofNatWrap (lt_of_le_of_lt h (by decide))
  simp [Token.asU64, Token.asUint, Word.ofU64, Word.toU64?, hword, h, bind, Except.bind]

/-- The selector of `approve(address,uint256)`. -/
def approveSelector : { b : Bytes // selector approveSignature = b } :=
  ⟨[9, 94, 167, 179], by rw [selector, Keccak.hash_eq_lanesHash]; decide +kernel⟩

@[simp] theorem selector_approve : selector approveSignature = [9, 94, 167, 179] :=
  approveSelector.property

namespace Collection

/-- The collection once the minted token `tokenId` moves from `source` to `target`: the token's
approval is dropped and, while stale reads are on, the owner before the move is remembered unless
an earlier one is. -/
def transferred (c : Collection) (stale : Bool) (source target : Address) (tokenId : Nat) :
    Collection :=
  { c with
    approvals := c.approvals.erase tokenId
    staleOwners :=
      if stale && !c.staleOwners.contains tokenId then c.staleOwners.insert tokenId source
      else c.staleOwners
    owners := c.owners.insert tokenId target }

/-- With no operator set, only the owner of a token and the account approved for it may move it. -/
theorem Sound.authorized_iff {c : Collection} (hs : c.Sound) {caller owner : Address}
    {tokenId : Nat} :
    c.authorized caller owner tokenId = true ↔
      caller = owner ∨ c.approvals.get? tokenId = some caller := by
  simp [authorized, hs.operators_eq]

end Collection

/-! ### What the contract decides -/

section Execute

variable (stale : Bool) (contract caller : Address) (c : Collection)

theorem orRevert_ownerOf_run {tokenId : Nat} {owner : Address}
    (h : c.owners.get? tokenId = some owner) :
    (orRevert (c.ownerOf tokenId)).run = .ok (.ok owner) := by
  simp [Collection.ownerOf, h]

theorem orRevert_ownerOf_run_none {tokenId : Nat} (h : c.owners.get? tokenId = none) :
    ∃ reason, (orRevert (c.ownerOf tokenId)).run = .ok (.error reason) :=
  ⟨"ERC721NonexistentToken(" ++ toString tokenId ++ ")", by simp [Collection.ownerOf, h]⟩

/-- A transfer of a token whose id fits 64 bits passes exactly when the token is owned by the
named owner, the caller may move it and the receiver is not zero; it then moves the token and logs
the move, and otherwise reverts. -/
theorem execute_transferFrom (source target : Address) {tokenId : Nat} (hid : tokenId ≤ u64Max) :
    (c.owners.get? tokenId = some source ∧ c.authorized caller source tokenId = true ∧
        target ≠ Address.zero →
      (execute stale contract caller (transferFrom source target tokenId).calldata c).run =
        .ok (.ok (c.transferred stale source target tokenId,
          [TransferEvent.toLog { source, target, tokenId } contract]))) ∧
    (¬(c.owners.get? tokenId = some source ∧ c.authorized caller source tokenId = true ∧
        target ≠ Address.zero) →
      ∃ reason, (execute stale contract caller (transferFrom source target tokenId).calldata c).run =
        .ok (.error reason)) := by
  have htypes : List.Forall₂ Token.HasType (transferFrom source target tokenId).args
      [.address, .address, .uint] :=
    .cons (.address _) (.cons (.address _) (.cons (.uint _) .nil))
  have hfits : (transferFrom source target tokenId).calldata.length ≤ u64Max := by
    simp [length_calldata, length_encode, transferFrom, Token.isDynamic, wordSize, u64Max_eq]
  have htokenId : (converting (Token.uint (Word.ofU64 tokenId)).asU64).run = .ok (.ok tokenId) := by
    simp [converting, Token.asU64_uint_ofU64 hid, Except.mapError]
  rw [execute, run_bind_of_ok (splitCalldata_run _)]
  dsimp only
  rw [if_neg (by simp [Call.selectorBytes, transferFrom]),
    if_neg (by simp [Call.selectorBytes, transferFrom]),
    if_pos (show (transferFrom source target tokenId).selectorBytes =
      selector transferFromSignature from rfl),
    run_bind_of_ok (decodeArgs_run (decode_calldata_args htypes hfits))]
  dsimp only [transferFrom]
  rw [run_bind_of_ok htokenId,
    run_bind_of_ok (rfl : (converting (Token.address target).asAddress).run = .ok (.ok target)),
    run_bind_of_ok (rfl : (converting (Token.address source).asAddress).run = .ok (.ok source))]
  cases howner : c.owners.get? tokenId with
  | none =>
    obtain ⟨reason, hreason⟩ := orRevert_ownerOf_run_none c howner
    exact ⟨fun h => absurd h.1 (by simp), fun _ => ⟨reason, run_bind_of_error hreason⟩⟩
  | some owner =>
    rw [run_bind_of_ok (orRevert_ownerOf_run c howner)]
    by_cases hsource : owner = source
    swap
    · exact ⟨fun h => absurd (Option.some.inj h.1) hsource, fun _ => by simp [hsource]⟩
    subst hsource
    by_cases hauth : c.authorized caller owner tokenId = true
    swap
    · exact ⟨fun h => absurd h.2.1 hauth, fun _ => by simp [hauth]⟩
    by_cases htarget : target = Address.zero
    · exact ⟨fun h => absurd htarget h.2.2,
        fun _ => by simp [hauth, htarget, Address.isZero, Address.zero]⟩
    · refine ⟨fun _ => ?_, fun h => absurd ⟨rfl, hauth, htarget⟩ h⟩
      have hnonzero : target.isZero = false :=
        Bool.eq_false_iff.2 fun h => htarget (Address.eq_zero_of_isZero h)
      simp only [ne_eq, not_true_eq_false, ↓reduceIte, hauth, Bool.not_true, Bool.false_eq_true,
        hnonzero, Bool.and_eq_true, Bool.not_eq_eq_eq_not, ExceptT.run_pure, Collection.transferred]
      rfl

/-- An approval for a token whose id fits 64 bits passes exactly when the token is minted and the
caller owns it or is an operator of its owner; it then records the approved account, logs nothing,
and otherwise reverts. -/
theorem execute_approve (spender : Address) {tokenId : Nat} (hid : tokenId ≤ u64Max) :
    ((∃ owner, c.owners.get? tokenId = some owner ∧
        (caller = owner ∨ (owner, caller) ∈ c.operators)) →
      (execute stale contract caller (approve spender tokenId).calldata c).run =
        .ok (.ok ({ c with approvals := c.approvals.insert tokenId spender }, []))) ∧
    (¬(∃ owner, c.owners.get? tokenId = some owner ∧
        (caller = owner ∨ (owner, caller) ∈ c.operators)) →
      ∃ reason, (execute stale contract caller (approve spender tokenId).calldata c).run =
        .ok (.error reason)) := by
  have htypes : List.Forall₂ Token.HasType (approve spender tokenId).args [.address, .uint] :=
    .cons (.address _) (.cons (.uint _) .nil)
  have hfits : (approve spender tokenId).calldata.length ≤ u64Max := by
    simp [length_calldata, length_encode, approve, Token.isDynamic, wordSize, u64Max_eq]
  have htokenId : (converting (Token.uint (Word.ofU64 tokenId)).asU64).run = .ok (.ok tokenId) := by
    simp [converting, Token.asU64_uint_ofU64 hid, Except.mapError]
  rw [execute, run_bind_of_ok (splitCalldata_run _)]
  dsimp only
  rw [if_neg (by simp [Call.selectorBytes, approve]), if_neg (by simp [Call.selectorBytes, approve]),
    if_neg (by simp [Call.selectorBytes, approve]),
    if_pos (show (approve spender tokenId).selectorBytes = selector approveSignature from rfl),
    run_bind_of_ok (decodeArgs_run (decode_calldata_args htypes hfits))]
  dsimp only [approve]
  rw [run_bind_of_ok htokenId,
    run_bind_of_ok (rfl : (converting (Token.address spender).asAddress).run = .ok (.ok spender))]
  cases howner : c.owners.get? tokenId with
  | none =>
    obtain ⟨reason, hreason⟩ := orRevert_ownerOf_run_none c howner
    refine ⟨?_, fun _ => ⟨reason, run_bind_of_error hreason⟩⟩
    rintro ⟨owner, hsome, -⟩
    cases hsome
  | some owner =>
    rw [run_bind_of_ok (orRevert_ownerOf_run c howner)]
    by_cases hallowed : caller = owner ∨ (owner, caller) ∈ c.operators
    · have hpass : ¬(caller ≠ owner ∧ (!c.operators.contains (owner, caller)) = true) := by
        rcases hallowed with h | h <;> simp [h]
      refine ⟨fun _ => ?_, fun h => absurd ⟨owner, rfl, hallowed⟩ h⟩
      rw [if_neg hpass]
      rfl
    · have hrefuse : caller ≠ owner ∧ (!c.operators.contains (owner, caller)) = true := by
        simp only [not_or] at hallowed
        simpa using hallowed
      refine ⟨?_, fun _ => ⟨_, by rw [if_pos hrefuse, revert_run]⟩⟩
      rintro ⟨owner', hsome, hallowed'⟩
      cases hsome
      exact absurd hallowed' hallowed

end Execute

/-! ### The receipts -/

theorem TxOutcome.included_injective : Function.Injective TxOutcome.included := by
  intro receipt receipt' h
  simpa [TxOutcome.included] using congrArg TxOutcome.receipt h

variable {chain : Chain} {caller address : Address} {c : Collection} {tokenId : Nat}

/-- A transfer sent by a signer to a contract, with no fault pending, is included in a block and
leaves no fault pending. Its receipt succeeds exactly when the contract's checks pass; the
contract then becomes the transferred collection, and otherwise every contract stays as it
was. -/
theorem transferFrom_receipt (source target : Address)
    (hsigner : chain.signers.contains caller = true) (hdrop : chain.dropNext = false)
    (hrevert : chain.revertNext = false) (hcontract : chain.contracts.get? address = some c)
    (hid : tokenId ≤ u64Max) :
    ∃ receipt chain', Ends (send caller address (transferFrom source target tokenId)) chain
        (.ok (.included receipt)) chain' ∧
      chain'.signers = chain.signers ∧ chain'.dropNext = false ∧ chain'.revertNext = false ∧
      (receipt.status = true ↔ c.owners.get? tokenId = some source ∧
        c.authorized caller source tokenId = true ∧ target ≠ Address.zero) ∧
      (receipt.status = true → chain'.contracts = chain.contracts.insert address
        (c.transferred chain.staleOwnerReads source target tokenId)) ∧
      (receipt.status = false → chain'.contracts = chain.contracts) := by
  obtain ⟨hpass, hrefuse⟩ :=
    execute_transferFrom chain.staleOwnerReads address caller c source target hid
  by_cases hchecks : c.owners.get? tokenId = some source ∧
      c.authorized caller source tokenId = true ∧ target ≠ Address.zero
  · refine ⟨_, _, (SendEnd.executed hsigner hdrop hrevert hcontract (hpass hchecks)).ends,
      rfl, rfl, rfl, iff_of_true rfl hchecks, fun _ => ?_, fun h => by cases h⟩
    simp [Chain.includeFrom, Chain.started, Chain.numbered]
  · obtain ⟨reason, hexecute⟩ := hrefuse hchecks
    refine ⟨_, _, (SendEnd.reverted hsigner hdrop hrevert hcontract hexecute).ends,
      rfl, rfl, rfl, iff_of_false Bool.false_ne_true hchecks, (fun h => by cases h), fun _ => ?_⟩
    simp [Chain.includeFrom, Chain.started, Chain.numbered]

/-- An approval sent by a signer to a contract, with no fault pending, is included in a block.
Its receipt succeeds exactly when the contract's check passes; the contract then records the
approved account, and otherwise every contract stays as it was. -/
theorem approve_receipt (spender : Address)
    (hsigner : chain.signers.contains caller = true) (hdrop : chain.dropNext = false)
    (hrevert : chain.revertNext = false) (hcontract : chain.contracts.get? address = some c)
    (hid : tokenId ≤ u64Max) :
    ∃ receipt chain', Ends (send caller address (approve spender tokenId)) chain
        (.ok (.included receipt)) chain' ∧
      (receipt.status = true ↔ ∃ owner, c.owners.get? tokenId = some owner ∧
        (caller = owner ∨ (owner, caller) ∈ c.operators)) ∧
      (receipt.status = true → chain'.contracts = chain.contracts.insert address
        { c with approvals := c.approvals.insert tokenId spender }) ∧
      (receipt.status = false → chain'.contracts = chain.contracts) := by
  obtain ⟨hpass, hrefuse⟩ :=
    execute_approve chain.staleOwnerReads address caller c spender hid
  by_cases hchecks : ∃ owner, c.owners.get? tokenId = some owner ∧
      (caller = owner ∨ (owner, caller) ∈ c.operators)
  · refine ⟨_, _, (SendEnd.executed hsigner hdrop hrevert hcontract (hpass hchecks)).ends,
      iff_of_true rfl hchecks, fun _ => ?_, fun h => by cases h⟩
    simp [Chain.includeFrom, Chain.started, Chain.numbered]
  · obtain ⟨reason, hexecute⟩ := hrefuse hchecks
    refine ⟨_, _, (SendEnd.reverted hsigner hdrop hrevert hcontract hexecute).ends,
      iff_of_false Bool.false_ne_true hchecks, (fun h => by cases h), fun _ => ?_⟩
    simp [Chain.includeFrom, Chain.started, Chain.numbered]

/-- An approval is spent by one transfer. Right after a transfer of a token has passed, in a state
a run reaches, a caller other than the token's new owner can no longer move it, whatever owner and
receiver it names: the token belongs to its receiver and has no approval any more. -/
theorem approval_spent {config : Config} (hreach : Reachable config chain)
    (hsigner : chain.signers.contains caller = true) (hdrop : chain.dropNext = false)
    (hrevert : chain.revertNext = false) (hcontract : chain.contracts.get? address = some c)
    (hid : tokenId ≤ u64Max) {source target : Address} {receipt : Receipt} {chain' : Chain}
    (hfirst : Ends (send caller address (transferFrom source target tokenId)) chain
      (.ok (.included receipt)) chain')
    (hstatus : receipt.status = true) (hcaller : caller ≠ target) (source' target' : Address) :
    ∃ receipt' chain'', Ends (send caller address (transferFrom source' target' tokenId)) chain'
        (.ok (.included receipt')) chain'' ∧ receipt'.status = false := by
  obtain ⟨receipt₀, chain₀, hends, hsigners, hdrop₀, hrevert₀, -, hmoved, -⟩ :=
    transferFrom_receipt source target hsigner hdrop hrevert hcontract hid
  obtain ⟨hanswer, rfl⟩ := hends.answers_eq hfirst.answers
  obtain rfl : receipt = receipt₀ := TxOutcome.included_injective (Except.ok.inj hanswer)
  have hget : chain'.contracts.get? address =
      some (c.transferred chain.staleOwnerReads source target tokenId) := by
    simp [hmoved hstatus]
  have hsound : (c.transferred chain.staleOwnerReads source target tokenId).Sound :=
    Reachable.contractsSound (hreach.tail ⟨.send caller address _, _, hfirst.answers⟩) address _ hget
  obtain ⟨receipt', chain'', hends', -, -, -, hiff, -, -⟩ :=
    transferFrom_receipt source' target' (hsigners ▸ hsigner) hdrop₀
      hrevert₀ hget hid
  refine ⟨receipt', chain'', hends', Bool.eq_false_iff.2 fun htrue => ?_⟩
  obtain ⟨howner, hauth, -⟩ := hiff.1 htrue
  have hnew : source' = target := by
    simpa [Collection.transferred] using howner.symm
  subst hnew
  rcases hsound.authorized_iff.1 hauth with hsame | happroved
  · exact hcaller hsame
  · simp [Collection.transferred] at happroved

/-- Who may move a token. In a state a run reaches, a transfer or an approval sent by a signer to
a contract with no fault pending is included in a block. A transfer succeeds exactly when the
token is minted and owned by the named owner, the caller is that owner or the account approved for
the token, and the receiver is not zero; it then only moves the token, drops its approval and, with
stale reads on, remembers the previous owner, and right after it a caller other than the new owner
can no longer move the token. An approval succeeds exactly when the caller owns the minted token,
and then only records the approved account. A refused call leaves every contract as it was. -/
theorem transfers_follow_ownership {config : Config} (hreach : Reachable config chain)
    (hsigner : chain.signers.contains caller = true) (hdrop : chain.dropNext = false)
    (hrevert : chain.revertNext = false) (hcontract : chain.contracts.get? address = some c) :
    (∀ (source target : Address) (tokenId : Nat), tokenId ≤ u64Max →
      ∃ receipt chain', Ends (send caller address (transferFrom source target tokenId)) chain
          (.ok (.included receipt)) chain' ∧
        (receipt.status = true ↔ c.owners.get? tokenId = some source ∧
          (caller = source ∨ c.approvals.get? tokenId = some caller) ∧ target ≠ Address.zero) ∧
        (receipt.status = true → chain'.contracts = chain.contracts.insert address
          (c.transferred chain.staleOwnerReads source target tokenId)) ∧
        (receipt.status = false → chain'.contracts = chain.contracts) ∧
        (receipt.status = true → caller ≠ target → ∀ source' target' : Address,
          ∃ receipt' chain'', Ends (send caller address (transferFrom source' target' tokenId))
            chain' (.ok (.included receipt')) chain'' ∧ receipt'.status = false)) ∧
    (∀ (spender : Address) (tokenId : Nat), tokenId ≤ u64Max →
      ∃ receipt chain', Ends (send caller address (approve spender tokenId)) chain
          (.ok (.included receipt)) chain' ∧
        (receipt.status = true ↔ c.owners.get? tokenId = some caller) ∧
        (receipt.status = true → chain'.contracts = chain.contracts.insert address
          { c with approvals := c.approvals.insert tokenId spender }) ∧
        (receipt.status = false → chain'.contracts = chain.contracts)) := by
  have hsound : c.Sound := hreach.contractsSound address c hcontract
  refine ⟨fun source target tokenId hid => ?_, fun spender tokenId hid => ?_⟩
  · obtain ⟨receipt, chain', hends, -, -, -, hiff, hmoved, hkept⟩ :=
      transferFrom_receipt source target hsigner hdrop hrevert hcontract hid
    refine ⟨receipt, chain', hends, by rw [hiff, hsound.authorized_iff], hmoved, hkept,
      fun hstatus hcaller source' target' => ?_⟩
    exact approval_spent hreach hsigner hdrop hrevert hcontract hid hends hstatus hcaller source'
      target'
  · obtain ⟨receipt, chain', hends, hiff, happroved, hkept⟩ :=
      approve_receipt spender hsigner hdrop hrevert hcontract hid
    refine ⟨receipt, chain', hends, ?_, happroved, hkept⟩
    rw [hiff, hsound.operators_eq]
    simp [eq_comm]

/-! ### A token that moves once -/

theorem decode_constructorArgs (admin : Address) :
    (decode [.address] (constructorArgs admin)).run = .ok (.ok [.address admin]) := by
  simpa [constructorArgs] using decode_encode_append (.cons (.address admin) .nil) []
    (by simp [length_encode, Token.isDynamic, wordSize, u64Max_eq])

/-- A contract created with one token minted at creation gives that token, id 1, to its admin. -/
theorem premint_one (contract : Address) {admin : Address} (hadmin : admin ≠ Address.zero) :
    ∃ c logs, premint contract admin 1 (Collection.create admin) = .ok (c, logs) ∧
      c.owners.get? 1 = some admin := by
  obtain ⟨c, hmint⟩ :=
    (Collection.create admin).mint_of_ne_zero ("ipfs://premint/" ++ toString (0 + 1)) hadmin
  refine ⟨c, [TransferEvent.toLog ⟨Address.zero, admin, 1⟩ contract], ?_, ?_⟩
  · simp only [premint, List.range_one, List.foldlM_cons, List.foldlM_nil, hmint]
    rfl
  · rw [(Collection.mint_eq_ok hmint).2]
    simp [Collection.create]

/-- On a chain that mints one token at each creation, the first signer creates a contract and moves
its token to the second signer: the transfer succeeds, and right after it the first signer cannot
move the token back. -/
theorem preminted_token_moves_once :
    ∃ (chain : Chain) (c : Collection), Reachable { premintedSupply := 1 } chain ∧
      chain.contracts.get? ((Chain.create { premintedSupply := 1 }).creationAddress
        (signerAddress 0)) = some c ∧
      ∃ receipt chain', Ends (send (signerAddress 0) ((Chain.create { premintedSupply := 1 }).creationAddress
          (signerAddress 0)) (transferFrom (signerAddress 0) (signerAddress 1) 1)) chain
          (.ok (.included receipt)) chain' ∧ receipt.status = true ∧
        ∃ receipt' chain'', Ends (send (signerAddress 0)
            ((Chain.create { premintedSupply := 1 }).creationAddress (signerAddress 0))
            (transferFrom (signerAddress 1) (signerAddress 0) 1)) chain'
            (.ok (.included receipt')) chain'' ∧ receipt'.status = false := by
  have hsigner := Chain.create_signers_contains
    (show 0 < ({ premintedSupply := 1 } : Config).signerCount by decide)
  have hzero₀ := Address.ne_zero_of_isZero (signerAddress_isZero (show 0 < 3 by decide))
  have hzero₁ := Address.ne_zero_of_isZero (signerAddress_isZero (show 1 < 3 by decide))
  have hdistinct : signerAddress 0 ≠ signerAddress 1 := by
    rw [deployerAccount.property, firstUserAccount.property]
    decide
  obtain ⟨c, logs, hpremint, howner⟩ :=
    premint_one ((Chain.create { premintedSupply := 1 }).creationAddress (signerAddress 0)) hzero₀
  obtain ⟨r, chain, hcreated, hsigners, hdrop, hrevert, hget⟩ : ∃ r chain,
      DeployEnd (Chain.create { premintedSupply := 1 }) (signerAddress 0) demoBytecode
        (constructorArgs (signerAddress 0)) r chain ∧
      chain.signers = (Chain.create { premintedSupply := 1 }).signers ∧ chain.dropNext = false ∧
      chain.revertNext = false ∧
      chain.contracts.get? ((Chain.create { premintedSupply := 1 }).creationAddress
        (signerAddress 0)) = some c :=
    ⟨_, _, .created hsigner (by decide) rfl (decode_constructorArgs (signerAddress 0)) rfl rfl
      hpremint, rfl, rfl, rfl, by simp [Chain.includeFrom, Chain.started, Chain.numbered]⟩
  have hreach : Reachable { premintedSupply := 1 } chain :=
    .single ⟨.deploy _ _ _, r, hcreated.ends.answers⟩
  obtain ⟨hmove, -⟩ := transfers_follow_ownership hreach (hsigners ▸ hsigner) hdrop hrevert hget
  obtain ⟨receipt, chain', hends, hiff, -, -, hspent⟩ :=
    hmove (signerAddress 0) (signerAddress 1) 1 (by decide)
  have hstatus : receipt.status = true := hiff.2 ⟨howner, .inl rfl, hzero₁⟩
  obtain ⟨receipt', chain'', hends', hrefused⟩ :=
    hspent hstatus hdistinct (signerAddress 1) (signerAddress 0)
  exact ⟨chain, c, hreach, hget, receipt, chain', hends, hstatus, receipt', chain'', hends', hrefused⟩

end NftProbe.Sim
