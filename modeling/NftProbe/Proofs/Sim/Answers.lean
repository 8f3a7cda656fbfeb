import NftProbe.Proofs.Sim.Calls
import NftProbe.Proofs.Sim.Constants
import NftProbe.Proofs.Sim.Transfers
import NftProbe.Proofs.Abi.Lengths
import NftProbe.Proofs.Run.Passing

/-!
# What the simulated chain answers a run

The harness's steps pass on stated answers of their client (`Run.StepM.ReadsBack`,
`Run.StepM.Includes`, `Run.StepM.ChainAnswers`); here the simulated chain gives them.

A read goes through the contract's `query` and back through the encoding, so it answers the
contract's values exactly when they have the call's return types and their encoding fits 64-bit
offsets (`read_ends_of_query`). The contract answers its supply, the owner and the URI of a
minted token, its metadata and its view of the latest block (`query_totalSupply`,
`query_ownerOf`, `query_tokenUri`, `query_getContractInfo`, `query_validateL3Chain`), and the
harness reads each back (`readsBack_totalSupply`, `readsBack_ownerOf`, `readsBack_tokenUri`,
`chainAnswers`).
-/

set_option autoImplicit false

namespace NftProbe.Sim

open Abi Contract Run StepM

/-! ### Values as the harness reads them -/

/-- The metadata reads back when its numbers fit 64 bits. -/
theorem ContractInfo.ofTokens_toTokens {info : ContractInfo} (hsupply : info.totalSupply ≤ u64Max)
    (hid : info.chainId ≤ u64Max) : ContractInfo.ofTokens info.toTokens = .ok info := by
  simp [ContractInfo.ofTokens, ContractInfo.toTokens, expectArity, tokenAt, Token.asString,
    Token.asU64_uint_ofU64 hsupply, Token.asU64_uint_ofU64 hid]

/-- A view that reads back at all reads back with its chain id, when that fits 64 bits; its other
numbers may not fit. -/
theorem L3View.chainId_of_ofTokens {view view' : L3View} (hid : view.chainId ≤ u64Max)
    (h : L3View.ofTokens view.toTokens = .ok view') : view'.chainId = view.chainId := by
  simp only [L3View.ofTokens, L3View.toTokens, expectArity, tokenAt] at h
  simp [Token.asU64_uint_ofU64 hid] at h
  rcases hb : (Token.uint (Word.ofU64 view.blockNumber)).asU64 with _ | b <;>
    rcases ht : (Token.uint (Word.ofU64 view.timestamp)).asU64 with _ | t <;>
    rcases hg : (Token.uint (Word.ofU64 view.gasLimit)).asU64 with _ | g <;>
    simp [hb, ht, hg, Token.asAddress] at h
  rw [← h]

/-! ### Reads -/

variable {chain : Chain} {target : Address} {call : Call} {c : Collection}

/-- A read answers the contract's values when they have the call's return types and their
encoding fits 64-bit offsets; the chain stays as it was. -/
theorem read_ends_of_query {tokens : List Token} (hcontract : chain.contracts.get? target = some c)
    (hquery : (query chain.config chain.snapshotOf chain.staleOwnerReads c call.calldata).run =
      .ok (.ok tokens))
    (htypes : List.Forall₂ Token.HasType tokens call.returns)
    (hfits : (encode tokens).length ≤ u64Max) :
    Ends (read target call) chain (.ok tokens) chain := by
  have hdecode : (decode call.returns (encode tokens)).run = .ok (.ok tokens) := by
    simpa using decode_encode_append htypes [] hfits
  exact read_decodes hcontract hquery hdecode

/-! ### The contract's answers -/

section Query

variable (config : Config) (snapshot : Except Overflow BlockSnapshot) (stale : Bool) (c : Collection)

theorem query_totalSupply :
    (query config snapshot stale c totalSupply.calldata).run =
      .ok (.ok [.uint (Word.ofU64 c.totalSupply)]) := by
  rw [query, run_bind_of_ok (splitCalldata_run _)]
  simp [Call.selectorBytes, totalSupply]

theorem query_getContractInfo :
    (query config snapshot stale c getContractInfo.calldata).run =
      .ok (.ok (ContractInfo.toTokens
        { name := config.name, symbol := config.symbol, totalSupply := c.totalSupply,
          version := config.version, chainName := config.chainName,
          chainId := config.observedChainId })) := by
  rw [query, run_bind_of_ok (splitCalldata_run _)]
  simp [Call.selectorBytes, getContractInfo]

theorem query_validateL3Chain (latest : BlockSnapshot) :
    (query config (.ok latest) stale c validateL3Chain.calldata).run =
      .ok (.ok (L3View.toTokens { L3View.ofSnapshot latest with chainId := config.observedChainId })) := by
  rw [query, run_bind_of_ok (splitCalldata_run _)]
  simp [Call.selectorBytes, validateL3Chain]
  rfl

/-- The token id of a read of one token. -/
theorem tokenIdArg_run {call : Call} {tokenId : Nat} (hargs : call.args = [.uint (Word.ofU64 tokenId)])
    (hid : tokenId ≤ u64Max) : (tokenIdArg (call.calldata.drop 4)).run = .ok (.ok tokenId) := by
  have hfits : call.calldata.length ≤ u64Max := by
    rw [length_calldata, length_encode_of_static (by simp [hargs, Token.isDynamic]), hargs]
    simp [wordSize, u64Max_eq]
  have htypes : List.Forall₂ Token.HasType call.args [.uint] := by
    rw [hargs]
    exact .cons (.uint _) .nil
  have hdecode := decodeArgs_run (decode_calldata_args htypes hfits)
  rw [tokenIdArg, run_bind_of_ok hdecode, hargs]
  simp [converting, Token.asU64_uint_ofU64 hid, Except.mapError]

/-- With stale reads off, the owner of a minted token is its owner. -/
theorem query_ownerOf {tokenId : Nat} {owner : Address} (hid : tokenId ≤ u64Max)
    (howner : c.owners.get? tokenId = some owner) :
    (query config snapshot false c (ownerOf tokenId).calldata).run = .ok (.ok [.address owner]) := by
  rw [query, run_bind_of_ok (splitCalldata_run _)]
  dsimp only
  rw [if_neg (by simp [Call.selectorBytes, ownerOf]),
    if_neg (by simp [Call.selectorBytes, ownerOf]),
    if_pos (show (ownerOf tokenId).selectorBytes = selector ownerOfSignature from rfl),
    run_bind_of_ok (tokenIdArg_run rfl hid)]
  simp [Collection.ownerOf, howner, Except.map]

/-- The URI of a minted token. -/
theorem query_tokenUri {tokenId : Nat} {owner : Address} (hid : tokenId ≤ u64Max)
    (howner : c.owners.get? tokenId = some owner) :
    (query config snapshot stale c (tokenUri tokenId).calldata).run =
      .ok (.ok [.string ((c.uris.get? tokenId).getD "")]) := by
  rw [query, run_bind_of_ok (splitCalldata_run _)]
  dsimp only
  rw [if_neg (by simp [Call.selectorBytes, tokenUri]),
    if_neg (by simp [Call.selectorBytes, tokenUri]),
    if_neg (by simp [Call.selectorBytes, tokenUri]),
    if_pos (show (tokenUri tokenId).selectorBytes = selector tokenUriSignature from rfl), run_bind_of_ok (tokenIdArg_run rfl hid)]
  simp [Collection.ownerOf, howner, Except.map]

end Query

/-! ### Reading back -/

variable {tokenId : Nat}

theorem readsBack_totalSupply (hcontract : chain.contracts.get? target = some c)
    (hsupply : c.totalSupply ≤ u64Max) :
    ReadsBack client chain target totalSupply Token.asU64 c.totalSupply := by
  refine ⟨_, read_ends_of_query hcontract (query_totalSupply _ _ _ c) (.cons (.uint _) .nil) ?_, ?_⟩
  · simp [length_encode, Token.isDynamic, wordSize, u64Max_eq]
  · simp [single, Token.asU64_uint_ofU64 hsupply]

theorem readsBack_ownerOf {owner : Address} (hstale : chain.staleOwnerReads = false)
    (hcontract : chain.contracts.get? target = some c) (hid : tokenId ≤ u64Max)
    (howner : c.owners.get? tokenId = some owner) :
    ReadsBack client chain target (ownerOf tokenId) Token.asAddress owner := by
  have hquery := query_ownerOf chain.config chain.snapshotOf c hid howner
  rw [← hstale] at hquery
  refine ⟨_, read_ends_of_query hcontract hquery (.cons (.address _) .nil) ?_, rfl⟩
  simp [length_encode, Token.isDynamic, wordSize, u64Max_eq]

theorem readsBack_tokenUri {owner : Address} {uri : String}
    (hcontract : chain.contracts.get? target = some c) (hid : tokenId ≤ u64Max)
    (howner : c.owners.get? tokenId = some owner) (huri : c.uris.get? tokenId = some uri)
    (hshort : Short uri) :
    ReadsBack client chain target (tokenUri tokenId) Token.asString uri := by
  have hquery := query_tokenUri chain.config chain.snapshotOf chain.staleOwnerReads c hid howner
  rw [huri, Option.getD_some] at hquery
  exact ⟨_, read_ends_of_query hcontract hquery (.cons (.string _) .nil)
    (length_encode_string_le hshort), rfl⟩

/-- The metadata, when its texts are short. -/
theorem read_getContractInfo (hcontract : chain.contracts.get? target = some c)
    (htexts : ∀ s ∈ [chain.config.name, chain.config.symbol, chain.config.version,
      chain.config.chainName], Short s) :
    Ends (client.read target getContractInfo) chain
      (.ok (ContractInfo.toTokens
        { name := chain.config.name, symbol := chain.config.symbol, totalSupply := c.totalSupply,
          version := chain.config.version, chainName := chain.config.chainName,
          chainId := chain.config.observedChainId })) chain :=
  read_ends_of_query hcontract (query_getContractInfo _ _ _ c)
    (.cons (.string _) (.cons (.string _) (.cons (.uint _) (.cons (.string _) (.cons (.string _)
      (.cons (.uint _) .nil))))))
    (ContractInfo.length_encode_toTokens_le htexts)

/-! ### The latest block -/

/-- A timestamp computes only when the elapsed time and the sum fit 64 bits. -/
theorem Chain.timestampAt_bounds {config : Config} {block timestamp : Nat}
    (h : Chain.timestampAt config block = .ok timestamp) :
    block * config.blockIntervalMs ≤ u64Max ∧
      config.genesisTimestamp + block * config.blockIntervalMs / 1000 ≤ u64Max := by
  unfold Chain.timestampAt U64.checkedMul at h
  split at h
  · rename_i hmul
    refine ⟨hmul, ?_⟩
    change U64.checkedAdd _ _ = _ at h
    unfold U64.checkedAdd at h
    split at h
    · assumption
    · cases h
  · cases h

/-- An earlier block's timestamp computes when a later one's does. -/
theorem Chain.timestampAt_ok_of_le {config : Config} {block block' timestamp' : Nat}
    (hle : block ≤ block') (h : Chain.timestampAt config block' = .ok timestamp') :
    ∃ timestamp, Chain.timestampAt config block = .ok timestamp := by
  obtain ⟨hmul, hadd⟩ := Chain.timestampAt_bounds h
  have hmul_le : block * config.blockIntervalMs ≤ block' * config.blockIntervalMs :=
    Nat.mul_le_mul_right _ hle
  have hdiv_le : block * config.blockIntervalMs / 1000 ≤ block' * config.blockIntervalMs / 1000 :=
    Nat.div_le_div_right hmul_le
  refine ⟨config.genesisTimestamp + block * config.blockIntervalMs / 1000, ?_⟩
  simp only [Chain.timestampAt, U64.checkedMul, if_pos (hmul_le.trans hmul)]
  exact if_pos (by omega)

/-- The latest block of a chain, given the timestamp of its block. -/
def Chain.latest (chain : Chain) (timestamp : Nat) : BlockSnapshot :=
  { chainId := chain.config.chainId, blockNumber := chain.blockNumber, timestamp,
    coinbase := sequencerCoinbase, gasLimit := chain.config.gasLimit }

theorem Chain.snapshotOf_ok {timestamp : Nat}
    (h : Chain.timestampAt chain.config chain.blockNumber = .ok timestamp) :
    chain.snapshotOf = .ok (chain.latest timestamp) := by
  simp only [Chain.snapshotOf, h]
  rfl

/-- The answers a chain check needs: the latest block, whose timestamp computes, shows the chain
id the harness expects and meets its gas floor; a deployed contract's view shows the chain's own
id, which fits 64 bits. -/
theorem chainAnswers {expectations : Expectations} {contract : Option Address} {timestamp : Nat}
    (htime : Chain.timestampAt chain.config chain.blockNumber = .ok timestamp)
    (hchainId : chain.config.chainId = expectations.chainId)
    (hobserved : chain.config.observedChainId = chain.config.chainId)
    (hid : chain.config.chainId ≤ u64Max)
    (hfloor : ∀ minimum, expectations.minGasLimit = some minimum →
      minimum ≤ chain.config.gasLimit)
    (hcontract : ∀ address, contract = some address → chain.contracts.contains address = true) :
    ChainAnswers client chain expectations contract (chain.latest timestamp) where
  latest := (ends_getThe chain).bind_ok (ends_checked (Chain.snapshotOf_ok htime) _)
  chainId := hchainId
  view address haddress := by
    obtain ⟨c, hc⟩ : ∃ c, chain.contracts.get? address = some c :=
      Option.isSome_iff_exists.1 (by rw [← Table.contains_eq_isSome_get?]; exact hcontract _ haddress)
    have hquery := query_validateL3Chain chain.config chain.staleOwnerReads c (chain.latest timestamp)
    rw [← Chain.snapshotOf_ok htime] at hquery
    refine ⟨_, read_ends_of_query hc hquery
      (.cons (.uint _) (.cons (.uint _) (.cons (.uint _) (.cons (.address _) (.cons (.uint _) .nil)))))
      (by simp [length_encode, L3View.toTokens, Token.isDynamic, wordSize, u64Max_eq]),
      fun view hview => ?_⟩
    rw [L3View.chainId_of_ofTokens (by simpa [hobserved] using hid) hview, hobserved, hchainId]
  floor := hfloor

/-! ### Transactions -/

/-- `chain'` keeps the settings and the signers of `chain`, with no fault pending and stale owner
reads off. -/
structure Chain.Settled (chain chain' : Chain) : Prop where
  config_eq : chain'.config = chain.config
  signers_eq : chain'.signers = chain.signers
  revertNext : chain'.revertNext = false
  dropNext : chain'.dropNext = false
  staleOwnerReads : chain'.staleOwnerReads = false

theorem Chain.Settled.trans {chain₁ chain₂ chain₃ : Chain} (h₁ : chain₁.Settled chain₂)
    (h₂ : chain₂.Settled chain₃) : chain₁.Settled chain₃ :=
  ⟨h₂.config_eq.trans h₁.config_eq, h₂.signers_eq.trans h₁.signers_eq, h₂.revertNext,
    h₂.dropNext, h₂.staleOwnerReads⟩

/-- A transaction that reached execution leaves the chain settled, whatever it did to the
contracts. -/
theorem Chain.settled_includeFrom (hstale : chain.staleOwnerReads = false)
    (contracts : Table Address Collection) (source : Address) (gasUsed : Nat) :
    chain.Settled (Chain.includeFrom { chain.started with contracts } source gasUsed) :=
  ⟨rfl, rfl, rfl, rfl, hstale⟩

/-- A creation with a nonzero admin mints its whole initial supply to the admin. -/
theorem premint_ok (contract : Address) {admin : Address} (hadmin : admin ≠ Address.zero)
    (c : Collection) (count : Nat) :
    ∃ c' logs, premint contract admin count c = .ok (c', logs) ∧ c'.admin = c.admin ∧
      c'.nextTokenId = c.nextTokenId + count ∧ c'.totalSupply = c.totalSupply + count := by
  induction count with
  | zero => exact ⟨c, [], rfl, rfl, rfl, rfl⟩
  | succ n ih =>
    obtain ⟨c₁, logs₁, hfold, hadmin₁, hnext, hsupply⟩ := ih
    unfold premint at hfold ⊢
    rw [List.range_succ, List.foldlM_append, hfold]
    obtain ⟨c₂, hmint⟩ := c₁.mint_of_ne_zero ("ipfs://premint/" ++ toString (n + 1)) hadmin
    have hc₂ := (Collection.mint_eq_ok hmint).2
    refine ⟨c₂, logs₁ ++ [TransferEvent.toLog ⟨Address.zero, admin, c₁.nextTokenId⟩ contract],
      ?_, ?_, ?_, ?_⟩
    · simp only [bind, Except.bind, List.foldlM_cons, List.foldlM_nil]
      rw [hmint]
      rfl
    · rw [hc₂]
      exact hadmin₁
    · rw [hc₂]
      show c₁.nextTokenId + 1 = _
      omega
    · rw [hc₂]
      show c₁.totalSupply + 1 = _
      omega

/-- A creation by a nonzero signer with init code, on a chain with no fault pending, is included
with success and creates the contract at the signer's next creation address, when that is not
zero: administered by the signer, with the initial supply minted. -/
theorem deploy_creates {source : Address} {bytecode : Bytes}
    (hsigner : chain.signers.contains source = true) (hzero : source ≠ Address.zero)
    (hcode : bytecode ≠ []) (hdrop : chain.dropNext = false) (hrevert : chain.revertNext = false)
    (hstale : chain.staleOwnerReads = false)
    (hcreated : chain.creationAddress source ≠ Address.zero) :
    ∃ c deployment receipt chain',
      Ends (client.deploy source bytecode (constructorArgs source)) chain (.ok deployment) chain' ∧
      successfulReceipt deployment.outcome = .ok receipt ∧
      deployment.createdAddress = some (chain.creationAddress source) ∧
      chain.Settled chain' ∧ chain'.blockNumber = chain.blockNumber + 1 ∧
      chain'.contracts.get? (chain.creationAddress source) = some c ∧ c.admin = source ∧
      c.nextTokenId = chain.config.premintedSupply + 1 ∧
      c.totalSupply = chain.config.premintedSupply := by
  obtain ⟨c, logs, hpremint, hadmin, hnext, hsupply⟩ :=
    premint_ok (chain.creationAddress source) hzero (Collection.create source)
      chain.config.premintedSupply
  have hnonzero : (chain.creationAddress source).isZero = false :=
    Bool.eq_false_iff.2 fun h => hcreated (Address.eq_zero_of_isZero h)
  refine ⟨c, _, _, _,
    (DeployEnd.created hsigner hcode hdrop (decode_constructorArgs source) rfl hrevert hpremint).ends,
    rfl, ?_, Chain.settled_includeFrom hstale _ _ _, rfl, ?_, hadmin, ?_, ?_⟩
  · simp [Deployment.createdAddress, TxOutcome.succeeded, TxOutcome.included, Chain.receipt,
      hnonzero]
  · simp [Chain.started, Chain.numbered]
  · rw [hnext]
    simp [Collection.create, Nat.add_comm]
  · rw [hsupply]
    simp [Collection.create]

theorem isMint_of_mem_mintTransfers {n : Nat} {recipients : List Address}
    {event : TransferEvent} (h : event ∈ mintTransfers n recipients) : event.isMint = true := by
  induction recipients generalizing n with
  | nil => cases h
  | cons recipient rest ih =>
    rcases List.mem_cons.1 h with rfl | hrest
    · rfl
    · exact ih hrest

/-- A mint from the admin of a contract, to nonzero recipients with as many URIs, at least one,
is included with success on a chain with no fault pending; its receipt's events check against
the recipients with the ids from the contract's next one on, and the admin stays. -/
theorem mint_includes {source address : Address} {call : Call} {recipients : List Address}
    {uris : List String} (hcall : MintCall call recipients uris)
    (hsigner : chain.signers.contains source = true) (hdrop : chain.dropNext = false)
    (hrevert : chain.revertNext = false) (hstale : chain.staleOwnerReads = false)
    (hcontract : chain.contracts.get? address = some c) (hadmin : source = c.admin)
    (hnonzero : ∀ r ∈ recipients, r ≠ Address.zero) (hlen : recipients.length = uris.length)
    (hne : recipients ≠ []) (hfits : call.calldata.length ≤ u64Max)
    (hids : c.nextTokenId + recipients.length ≤ u64Bound) :
    ∃ c' chain', Minted c c' recipients uris ∧ c'.admin = c.admin ∧ chain.Settled chain' ∧
      chain'.blockNumber = chain.blockNumber + 1 ∧ chain'.contracts.get? address = some c' ∧
      Includes client chain source address call chain'
        (MintsChecked address recipients (List.range' c.nextTokenId recipients.length)) := by
  obtain ⟨haccept, -⟩ := execute_mintCall chain.staleOwnerReads address source c hcall hfits
  obtain ⟨c', hexecute, hminted⟩ := haccept ⟨hadmin, hnonzero, hlen, hne⟩
  have hgrows := Collection.Grows.of_executions (.single ⟨_, _, _, _, _, hexecute⟩)
  refine ⟨c', _, hminted, hgrows.admin_eq, Chain.settled_includeFrom hstale _ _ _, rfl,
    by simp [Chain.started, Chain.numbered], _, _,
    (SendEnd.executed hsigner hdrop hrevert hcontract hexecute).ends, rfl,
    _, collectLogs_mintTransfers address _ _ hids, ?_⟩
  rw [List.filter_eq_self.2 fun e he => isMint_of_mem_mintTransfers he]
  exact verifyMinted_mintTransfers _ _ hids

/-- A transfer by a token's owner to a nonzero address, with stale reads off, moves the token and
drops its approval. -/
theorem execute_transferFrom_owner (contract : Address) {owner target : Address} {tokenId : Nat}
    (hid : tokenId ≤ u64Max) (howner : c.owners.get? tokenId = some owner)
    (htarget : target ≠ Address.zero) :
    (execute false contract owner (transferFrom owner target tokenId).calldata c).run =
      .ok (.ok ({ c with
          approvals := c.approvals.erase tokenId, owners := c.owners.insert tokenId target },
        [TransferEvent.toLog { source := owner, target, tokenId } contract])) := by
  have hauth : c.authorized owner owner tokenId = true := by simp [Collection.authorized]
  exact (execute_transferFrom false contract owner c owner target hid).1 ⟨howner, hauth, htarget⟩

/-- A transfer by a token's owner to a nonzero address is included with success on a chain with no
fault pending and stale reads off. -/
theorem transfer_includes {source target address : Address} {tokenId : Nat}
    (hsigner : chain.signers.contains source = true) (hdrop : chain.dropNext = false)
    (hrevert : chain.revertNext = false) (hstale : chain.staleOwnerReads = false)
    (hcontract : chain.contracts.get? address = some c)
    (howner : c.owners.get? tokenId = some source) (htarget : target ≠ Address.zero)
    (hid : tokenId ≤ u64Max) :
    ∃ chain', chain.Settled chain' ∧ chain'.blockNumber = chain.blockNumber + 1 ∧
      chain'.contracts.get? address = some { c with
        approvals := c.approvals.erase tokenId, owners := c.owners.insert tokenId target } ∧
      Includes client chain source address (transferFrom source target tokenId) chain'
        fun _ => True := by
  have hexecute := execute_transferFrom_owner address hid howner htarget
  rw [← hstale] at hexecute
  exact ⟨_, Chain.settled_includeFrom hstale _ _ _, rfl, by simp [Chain.started, Chain.numbered],
    _, _, (SendEnd.executed hsigner hdrop hrevert hcontract hexecute).ends, rfl, trivial⟩

end NftProbe.Sim
