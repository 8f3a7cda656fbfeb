import NftProbe.Proofs.Contract.Results
import NftProbe.Proofs.Sim.Operations

/-!
# What a read of the simulated chain answers

A read never changes the chain: it ends where it started, or halts on an overflow (`read_ends`).
Against an address without a contract it fails naming the address; otherwise the contract's
answer is encoded and decoded back with the call's return types, and for the token contract's
reads that round trip gives back the contract's values. So in every state a run reaches, each
read answers the state itself (`reads_answer_state`): the supply and the next token id as words,
the owner and the URI of a minted token and a revert naming any other, the metadata of the
chain's settings with the chain id the contracts observe (`Config.contractInfo`), and the latest
block as the contracts see it (`Config.viewOf`).

The owner a read shows (`Collection.shownOwner`) is the token's owner while stale reads are off.
The contract's view of the latest block needs the block's timestamp, the genesis time plus the
elapsed block intervals in whole seconds, in 64 bits: once that sum passes 64 bits the read
halts, here in a chain whose genesis time is the largest there is, right after its first block
(`late_block_view_halts`).
-/

set_option autoImplicit false

namespace NftProbe.Sim

open Abi Contract

/-! ### What the contract reports -/

/-- The metadata a contract holding `supply` tokens reports on a chain with settings `config`. -/
def Config.contractInfo (config : Config) (supply : Nat) : ContractInfo :=
  { name := config.name, symbol := config.symbol, totalSupply := supply,
    version := config.version, chainName := config.chainName, chainId := config.observedChainId }

/-- The latest block as the contracts of a chain with settings `config` see it. -/
def Config.viewOf (config : Config) (latest : BlockSnapshot) : L3View :=
  { L3View.ofSnapshot latest with chainId := config.observedChainId }

/-- The owner a read of `ownerOf` shows: with stale reads on, the owner the contract remembers
for the token, when it remembers one; otherwise the owner of a minted token. -/
def Collection.shownOwner (c : Collection) (stale : Bool) (tokenId : Nat) :
    Except String Address :=
  match stale, c.staleOwners.get? tokenId with
  | true, some owner => .ok owner
  | _, _ => c.ownerOf tokenId

@[simp] theorem Collection.shownOwner_false (c : Collection) (tokenId : Nat) :
    c.shownOwner false tokenId = c.ownerOf tokenId := rfl

/-- The failure of a read of a token that was never minted: the contract's revert. -/
def nonexistentToken (tokenId : Nat) : ClientError :=
  .execution ("execution reverted: " ++ ("ERC721NonexistentToken(" ++ toString tokenId ++ ")"))

/-! ### The contract's answers -/

section Query

variable (config : Config) (snapshot : Except Overflow BlockSnapshot) (stale : Bool) (c : Collection)

theorem query_getNextTokenId :
    (query config snapshot stale c getNextTokenId.calldata).run =
      .ok (.ok [.uint (Word.ofU64 c.nextTokenId)]) := by
  rw [query, run_bind_of_ok (splitCalldata_run _)]
  simp [Call.selectorBytes, getNextTokenId]

/-- A read of an owner answers the owner the contract shows, or reverts naming the token. -/
theorem query_ownerOf_shown {tokenId : Nat} (hid : tokenId ≤ u64Max) :
    (query config snapshot stale c (ownerOf tokenId).calldata).run =
      .ok ((c.shownOwner stale tokenId).map fun owner => [.address owner]) := by
  rw [query, run_bind_of_ok (splitCalldata_run _)]
  dsimp only
  rw [if_neg (by simp [Call.selectorBytes, ownerOf]),
    if_neg (by simp [Call.selectorBytes, ownerOf]),
    if_pos (show (ownerOf tokenId).selectorBytes = selector ownerOfSignature from rfl),
    run_bind_of_ok (tokenIdArg_run rfl hid)]
  cases stale <;> cases hstale : c.staleOwners.get? tokenId <;>
    cases howner : c.owners.get? tokenId <;>
    simp [Collection.shownOwner, Collection.ownerOf, hstale, howner, Except.map]

/-- A read of the URI of a token that was never minted reverts naming the token. -/
theorem query_tokenUri_unminted {tokenId : Nat} (hid : tokenId ≤ u64Max)
    (hnone : c.owners.get? tokenId = none) :
    (query config snapshot stale c (tokenUri tokenId).calldata).run =
      .ok (.error ("ERC721NonexistentToken(" ++ toString tokenId ++ ")")) := by
  rw [query, run_bind_of_ok (splitCalldata_run _)]
  dsimp only
  rw [if_neg (by simp [Call.selectorBytes, tokenUri]),
    if_neg (by simp [Call.selectorBytes, tokenUri]),
    if_neg (by simp [Call.selectorBytes, tokenUri]),
    if_pos (show (tokenUri tokenId).selectorBytes = selector tokenUriSignature from rfl),
    run_bind_of_ok (tokenIdArg_run rfl hid)]
  simp [Collection.ownerOf, hnone, Except.map]

/-- The view of the latest block halts when the block's timestamp does not compute. -/
theorem query_validateL3Chain_halts (overflow : Overflow) :
    (query config (.error overflow) stale c validateL3Chain.calldata).run = .error overflow := by
  rw [query, run_bind_of_ok (splitCalldata_run _)]
  simp [Call.selectorBytes, validateL3Chain]

end Query

/-! ### Reads of a contract -/

variable {chain : Chain} {target : Address} {c : Collection} {tokenId : Nat}

/-- A read of one word answers it. -/
theorem read_ends_of_word {call : Call} {word : Word}
    (hcontract : chain.contracts.get? target = some c) (hreturns : call.returns = [.uint])
    (hquery : (query chain.config chain.snapshotOf chain.staleOwnerReads c call.calldata).run =
      .ok (.ok [.uint word])) :
    Ends (read target call) chain (.ok [.uint word]) chain :=
  read_ends_of_query hcontract hquery (hreturns ▸ .cons (.uint _) .nil)
    (by simp [length_encode, Token.isDynamic, wordSize, u64Max_eq])

theorem read_totalSupply (hcontract : chain.contracts.get? target = some c) :
    Ends (read target totalSupply) chain (.ok [.uint (Word.ofU64 c.totalSupply)]) chain :=
  read_ends_of_word hcontract rfl (query_totalSupply _ _ _ c)

theorem read_getNextTokenId (hcontract : chain.contracts.get? target = some c) :
    Ends (read target getNextTokenId) chain (.ok [.uint (Word.ofU64 c.nextTokenId)]) chain :=
  read_ends_of_word hcontract rfl (query_getNextTokenId _ _ _ c)

/-- A read of an owner answers the owner the contract shows. -/
theorem read_ownerOf_of_shown {owner : Address} (hcontract : chain.contracts.get? target = some c)
    (hid : tokenId ≤ u64Max) (hshown : c.shownOwner chain.staleOwnerReads tokenId = .ok owner) :
    Ends (read target (ownerOf tokenId)) chain (.ok [.address owner]) chain := by
  have hquery := query_ownerOf_shown chain.config chain.snapshotOf chain.staleOwnerReads c hid
  rw [hshown] at hquery
  exact read_ends_of_query hcontract hquery (.cons (.address _) .nil)
    (by simp [length_encode, Token.isDynamic, wordSize, u64Max_eq])

/-- A read of an owner answers the owner the contract shows, and otherwise fails with the
contract's revert. -/
theorem read_ownerOf (hcontract : chain.contracts.get? target = some c) (hid : tokenId ≤ u64Max) :
    Ends (read target (ownerOf tokenId)) chain
      (((c.shownOwner chain.staleOwnerReads tokenId).map fun owner => [.address owner]).mapError
        fun reason => .execution ("execution reverted: " ++ reason)) chain := by
  cases hshown : c.shownOwner chain.staleOwnerReads tokenId with
  | ok owner => exact read_ownerOf_of_shown hcontract hid hshown
  | error reason =>
    have hquery := query_ownerOf_shown chain.config chain.snapshotOf chain.staleOwnerReads c hid
    rw [hshown] at hquery
    exact read_reverts hcontract hquery

/-- With stale reads off, a read of an owner answers the owner of a minted token and fails for
any other token. -/
theorem read_ownerOf_fresh (hstale : chain.staleOwnerReads = false)
    (hcontract : chain.contracts.get? target = some c) (hid : tokenId ≤ u64Max) :
    (∀ owner, c.owners.get? tokenId = some owner →
      Ends (read target (ownerOf tokenId)) chain (.ok [.address owner]) chain) ∧
    (c.owners.get? tokenId = none →
      Ends (read target (ownerOf tokenId)) chain (.error (nonexistentToken tokenId)) chain) := by
  refine ⟨fun owner howner => read_ownerOf_of_shown hcontract hid ?_, fun hnone => ?_⟩
  · rw [hstale, Collection.shownOwner_false]
    simp [Collection.ownerOf, howner]
  · have hread := read_ownerOf hcontract hid
    rw [hstale, Collection.shownOwner_false] at hread
    simpa [Collection.ownerOf, hnone, Except.map, Except.mapError, nonexistentToken] using hread

/-- A read of the URI of a minted token answers its URI, when the program can encode it, and a
read of any other token fails. -/
theorem read_tokenUri (hcontract : chain.contracts.get? target = some c) (hid : tokenId ≤ u64Max) :
    (∀ owner uri, c.owners.get? tokenId = some owner → c.uris.get? tokenId = some uri →
      Short uri → Ends (read target (tokenUri tokenId)) chain (.ok [.string uri]) chain) ∧
    (c.owners.get? tokenId = none →
      Ends (read target (tokenUri tokenId)) chain (.error (nonexistentToken tokenId)) chain) := by
  refine ⟨fun owner uri howner huri hshort => ?_, fun hnone => ?_⟩
  · have hquery := query_tokenUri chain.config chain.snapshotOf chain.staleOwnerReads c hid howner
    rw [huri, Option.getD_some] at hquery
    exact read_ends_of_query hcontract hquery (.cons (.string _) .nil)
      (length_encode_string_le hshort)
  · exact read_reverts hcontract
      (query_tokenUri_unminted chain.config chain.snapshotOf chain.staleOwnerReads c hid hnone)

/-- A read of the metadata answers the chain's settings with the contract's supply, when the
program can encode its texts; the metadata reads back from the answer when its numbers fit
64 bits. -/
theorem read_contractInfo (hcontract : chain.contracts.get? target = some c)
    (htexts : ∀ s ∈ [chain.config.name, chain.config.symbol, chain.config.version,
      chain.config.chainName], Short s) :
    Ends (read target getContractInfo) chain
      (.ok (chain.config.contractInfo c.totalSupply).toTokens) chain ∧
    ((chain.config.contractInfo c.totalSupply).Fits →
      ContractInfo.ofTokens (chain.config.contractInfo c.totalSupply).toTokens =
        .ok (chain.config.contractInfo c.totalSupply)) :=
  ⟨read_getContractInfo hcontract htexts, fun hfits => ContractInfo.ofTokens_toTokens hfits.1 hfits.2⟩

/-- A read of the contract's view of the latest block answers it when the block's timestamp
computes, the view reading back when its numbers fit 64 bits; otherwise the read halts. -/
theorem read_validateL3Chain (hcontract : chain.contracts.get? target = some c) :
    (∀ latest, chain.snapshotOf = .ok latest →
      Ends (read target validateL3Chain) chain (.ok (chain.config.viewOf latest).toTokens) chain ∧
      ((chain.config.viewOf latest).Fits →
        L3View.ofTokens (chain.config.viewOf latest).toTokens = .ok (chain.config.viewOf latest))) ∧
    (∀ overflow, chain.snapshotOf = .error overflow → Halts (read target validateL3Chain) chain) := by
  refine ⟨fun latest hlatest => ⟨?_, L3View.ofTokens_toTokens⟩, fun overflow hoverflow => ?_⟩
  · have hquery := query_validateL3Chain chain.config chain.staleOwnerReads c latest
    rw [← hlatest] at hquery
    exact read_ends_of_query hcontract hquery
      (.cons (.uint _) (.cons (.uint _) (.cons (.uint _) (.cons (.address _) (.cons (.uint _) .nil)))))
      (by simp [length_encode, L3View.toTokens, Token.isDynamic, wordSize, u64Max_eq])
  · have hquery := query_validateL3Chain_halts chain.config chain.staleOwnerReads c overflow
    rw [← hoverflow] at hquery
    exact read_halts_of_query hcontract hquery

/-- Every minted token of a sound collection has a URI. -/
theorem Collection.Sound.described_of_owned (hs : c.Sound) {owner : Address}
    (howner : c.owners.get? tokenId = some owner) : ∃ uri, c.uris.get? tokenId = some uri := by
  have hcontains : c.uris.contains tokenId = true := by
    rw [hs.described_iff, ← hs.owned_iff, Table.contains_eq_isSome_get?, howner]
    rfl
  rw [Table.contains_eq_isSome_get?] at hcontains
  exact Option.isSome_iff_exists.1 hcontains

/-- The first signer's first creation on a fresh chain, administered by the signer, stores the
contract its initial mint makes at the signer's creation address, in block 1, keeping the
settings and the signers, with no switch set and stale reads off. -/
theorem Reachable.first_creation {config : Config} (hsigners : 0 < config.signerCount)
    {logs : List LogEntry}
    (hpremint : premint ((Chain.create config).creationAddress (signerAddress 0)) (signerAddress 0)
      config.premintedSupply (Collection.create (signerAddress 0)) = .ok (c, logs)) :
    ∃ chain, Reachable config chain ∧
      chain.contracts.get? ((Chain.create config).creationAddress (signerAddress 0)) = some c ∧
      chain.config = config ∧ chain.blockNumber = 1 ∧
      chain.signers = (Chain.create config).signers ∧ chain.dropNext = false ∧
      chain.revertNext = false ∧ chain.staleOwnerReads = false := by
  have hcreated := DeployEnd.created (Chain.create_signers_contains hsigners)
    (by decide : demoBytecode ≠ []) rfl (decode_constructorArgs (signerAddress 0)) rfl rfl hpremint
  exact ⟨_, .single ⟨.deploy _ _ _, _, hcreated.ends.answers⟩,
    by simp [Chain.includeFrom, Chain.started, Chain.numbered], rfl, rfl, rfl, rfl, rfl, rfl⟩

/-! ### Every read -/

/-- What reads answer. In every state a run reaches, a read leaves the chain as it was, or halts
on an overflow, and a read of an address without a contract fails naming it. A read of a contract
answers its supply and the next token id; with stale reads off, the owner of a minted token; the
URI of a minted token, which every minted token has, when the program can encode it; a revert
naming the token for the owner or the URI of any other token; the metadata of the chain's
settings with the contract's supply and the chain id the contracts observe, when the program can
encode its texts; and the latest block as the contracts see it, when the block's timestamp
computes in 64 bits. The metadata and the view read back when their numbers fit 64 bits. When the
timestamp does not compute, the read of the view halts. -/
theorem reads_answer_state {config : Config} (hreach : Reachable config chain) :
    (∀ target call, (∃ r, Ends (read target call) chain r chain) ∨
      Halts (read target call) chain) ∧
    (∀ target call, chain.contracts.get? target = none →
      Ends (read target call) chain (.error (.unknownContract target)) chain) ∧
    ∀ target c, chain.contracts.get? target = some c →
      Ends (read target totalSupply) chain (.ok [.uint (Word.ofU64 c.totalSupply)]) chain ∧
      Ends (read target getNextTokenId) chain (.ok [.uint (Word.ofU64 c.nextTokenId)]) chain ∧
      (∀ tokenId ≤ u64Max, chain.staleOwnerReads = false →
        (∀ owner, c.owners.get? tokenId = some owner →
          Ends (read target (ownerOf tokenId)) chain (.ok [.address owner]) chain) ∧
        (c.owners.get? tokenId = none →
          Ends (read target (ownerOf tokenId)) chain (.error (nonexistentToken tokenId)) chain)) ∧
      (∀ tokenId ≤ u64Max,
        (∀ owner, c.owners.get? tokenId = some owner → ∃ uri, c.uris.get? tokenId = some uri ∧
          (Short uri → Ends (read target (tokenUri tokenId)) chain (.ok [.string uri]) chain)) ∧
        (c.owners.get? tokenId = none →
          Ends (read target (tokenUri tokenId)) chain (.error (nonexistentToken tokenId)) chain)) ∧
      ((∀ s ∈ [chain.config.name, chain.config.symbol, chain.config.version,
          chain.config.chainName], Short s) →
        Ends (read target getContractInfo) chain
          (.ok (chain.config.contractInfo c.totalSupply).toTokens) chain ∧
        ((chain.config.contractInfo c.totalSupply).Fits →
          ContractInfo.ofTokens (chain.config.contractInfo c.totalSupply).toTokens =
            .ok (chain.config.contractInfo c.totalSupply))) ∧
      (∀ latest, chain.snapshotOf = .ok latest →
        Ends (read target validateL3Chain) chain (.ok (chain.config.viewOf latest).toTokens) chain ∧
        ((chain.config.viewOf latest).Fits →
          L3View.ofTokens (chain.config.viewOf latest).toTokens =
            .ok (chain.config.viewOf latest))) ∧
      (∀ overflow, chain.snapshotOf = .error overflow →
        Halts (read target validateL3Chain) chain) := by
  refine ⟨read_ends chain, fun target call hnone => read_unknownContract hnone call,
    fun target c hcontract => ?_⟩
  have hsound : c.Sound := hreach.contractsSound target c hcontract
  refine ⟨read_totalSupply hcontract, read_getNextTokenId hcontract,
    fun tokenId hid hstale => read_ownerOf_fresh hstale hcontract hid,
    fun tokenId hid => ⟨fun owner howner => ?_, (read_tokenUri hcontract hid).2⟩,
    read_contractInfo hcontract, (read_validateL3Chain hcontract).1,
    (read_validateL3Chain hcontract).2⟩
  obtain ⟨uri, huri⟩ := hsound.described_of_owned howner
  exact ⟨uri, huri, (read_tokenUri hcontract hid).1 owner uri howner huri⟩

/-- On a chain that mints one token at each creation, the first signer's contract answers a read
of the owner of token 1 with the first signer. -/
theorem preminted_owner_reads_back :
    ∃ chain, Reachable { premintedSupply := 1 } chain ∧
      Ends (read ((Chain.create { premintedSupply := 1 }).creationAddress (signerAddress 0))
        (ownerOf 1)) chain (.ok [.address (signerAddress 0)]) chain := by
  have hzero := Address.ne_zero_of_isZero (signerAddress_isZero (show 0 < 3 by decide))
  obtain ⟨c, logs, hpremint, howner⟩ := premint_one _ hzero
  obtain ⟨chain, hreach, hget, -, -, -, -, -, hstale⟩ :=
    Reachable.first_creation (show 0 < ({ premintedSupply := 1 } : Config).signerCount by decide)
      hpremint
  exact ⟨chain, hreach,
    (((reads_answer_state hreach).2.2 _ c hget).2.2.1 1 (by decide) hstale).1 _ howner⟩

/-- Settings whose genesis time is the largest 64-bit number, one block a second. -/
def lateGenesis : Config := { genesisTimestamp := u64Max, blockIntervalMs := 1000 }

/-- On a chain whose genesis time is the largest 64-bit number, one block a second, the first
signer's first creation lands in block 1, whose timestamp passes 64 bits: a read of the new
contract's view of the latest block halts. -/
theorem late_block_view_halts :
    ∃ chain, Reachable lateGenesis chain ∧
      chain.contracts.contains ((Chain.create lateGenesis).creationAddress (signerAddress 0)) ∧
      Halts (read ((Chain.create lateGenesis).creationAddress (signerAddress 0)) validateL3Chain)
        chain := by
  obtain ⟨chain, hreach, hget, hconfig, hblock, -⟩ :=
    Reachable.first_creation (show 0 < lateGenesis.signerCount by decide)
      (show premint _ (signerAddress 0) 0 _ = .ok (Collection.create (signerAddress 0), []) from rfl)
  have hsnapshot : chain.snapshotOf = .error .add := by
    simp only [Chain.snapshotOf, Chain.timestampAt, hconfig, hblock]
    decide
  refine ⟨chain, hreach, by simp [Table.contains_eq_isSome_get?, hget], ?_⟩
  exact (read_validateL3Chain hget).2 .add hsnapshot

end NftProbe.Sim
