import NftProbe.Proofs.Sim.Answers
import NftProbe.Proofs.Sim.Blocks
import NftProbe.Run.Report

/-!
# A test run on the simulated chain

The harness's steps pass on stated answers of their client (`Run.StepM.Passes`); the simulated
chain gives them (`Sim.chainAnswers`, `Sim.deploy_creates`, `Sim.mint_includes`,
`Sim.transfer_includes` and the reads back). This module runs the whole test workflow on the
simulated chain, phase by phase, and shows that it completes with every outcome passed.

The chain is any state reached from a fresh one (`Runs`), so it keeps its settings and its
signers; it has no fault pending and stale owner reads off. Its settings agree with what the run
expects (`Config.Agrees`), and it offers at least three signers. Each phase has its lemma: the
deployment leaves the new contract at the deployer's creation address with the initial supply
minted to the deployer (`simulated_deployAndVerify_passes`); the mints give the four next ids, one
to the first user and a batch to both users and the deployer (`simulated_mintPhase_passes`); the
transfer moves the single token to the second user, and every token then reads back as recorded
(`simulated_transferPhase_passes`); the last check and the metadata agree
(`simulated_validatePhase_passes`). `simulated_executeFull_passes` chains the phases from the
chain's own answers, and the report of such a run passes under either exit policy
(`Context.Shows.report_passes`): it completes with no failed outcome, and names the baseline
supply and the four tokens, each of which the contract answers back.

What stays a hypothesis is what the program cannot settle by itself: the numbers it handles fit
64 bits (the chain id, the supply after the four mints, the timestamps of the blocks the run
makes), its texts are shorter than 2^61 bytes, as any text a machine holds is, and the hash that
names the new contract is not the zero address.
-/

set_option autoImplicit false

namespace NftProbe.Run

/-- The report of a completed run whose outcomes all passed with no error passes under either
exit policy. -/
theorem Context.Shows.report_passes {context : Context} {p : Progress} (h : context.Shows p)
    (hphase : p.phase = .completed) (finishedAt : String) (policy : ExitPolicy) :
    (Report.ofContext context finishedAt).passes policy = true := by
  have hsuccess : (Report.ofContext context finishedAt).success = true := by
    simp only [Report.ofContext, h.phase_eq, hphase, beq_self_eq_true, Bool.true_and,
      Report.onlyReported, List.all_eq_true]
    intro o ho
    simp [StepOutcome.severity, (h.passed o ho).2]
  cases policy with
  | fatalOnly => exact hsuccess
  | strict =>
    simp only [Report.passes, hsuccess, Bool.true_and, Report.failures, List.isEmpty_iff,
      List.filter_eq_nil_iff]
    intro o ho
    simp [(h.passed o ho).1]

end NftProbe.Run

namespace NftProbe.Sim

open Abi Contract Run StepM

/-! ### The chain a run starts from -/

section Start

variable {chain chain' : Chain}

theorem Event.Books.signers_eq {event : Event} (h : event.Books chain chain') :
    chain'.signers = chain.signers := by
  cases h <;> rfl

/-- Every run keeps the signers. -/
theorem Runs.signers_eq {events : List Event} (h : Runs chain events chain') :
    chain'.signers = chain.signers :=
  Runs.lift (R := fun chain chain' => chain'.signers = chain.signers) (fun _ => rfl)
    (fun _ _ _ h₁ h₂ => h₂.trans h₁) (fun _ _ _ hstep => hstep.books.signers_eq) h

theorem Chain.create_signers_getElem? {config : Config} {index : Nat}
    (h : index < config.signerCount) :
    (Chain.create config).signers[index]? = some (signerAddress index) := by
  simp [Chain.create, h]

theorem Chain.length_create_signers (config : Config) :
    (Chain.create config).signers.length = config.signerCount := by
  simp [Chain.create]

/-- On a chain reached from one created with three signers or more, the first three are the
three accounts: the chain signs for them, and none is zero. -/
theorem Runs.first_signers {config : Config} {events : List Event}
    (hrun : Runs (Chain.create config) events chain) (hsigners : 3 ≤ config.signerCount)
    {index : Nat} (hindex : index < 3) :
    chain.signers[index]? = some (signerAddress index) ∧
      chain.signers.contains (signerAddress index) = true ∧ signerAddress index ≠ Address.zero := by
  have hat : chain.signers[index]? = some (signerAddress index) := by
    rw [hrun.signers_eq]
    exact Chain.create_signers_getElem? (by omega)
  exact ⟨hat, List.contains_iff_mem.2 (List.mem_of_getElem? hat),
    Address.ne_zero_of_isZero (signerAddress_isZero hindex)⟩

/-- A chain with no fault pending and stale owner reads off is settled on itself. -/
theorem Chain.settled_self (hrevert : chain.revertNext = false) (hdrop : chain.dropNext = false)
    (hstale : chain.staleOwnerReads = false) : chain.Settled chain :=
  ⟨rfl, rfl, hrevert, hdrop, hstale⟩

/-- The later chain of a settled pair is settled on itself. -/
theorem Chain.Settled.quiet (h : chain.Settled chain') : chain'.Settled chain' :=
  ⟨rfl, rfl, h.revertNext, h.dropNext, h.staleOwnerReads⟩

theorem ends_signers (chain : Chain) : Ends client.signers chain (.ok chain.signers) chain :=
  (ends_getThe chain).bind_ok (ends_pure _ _)

end Start

/-! ### Settings that agree with the expectations -/

/-- The settings of a simulated chain agree with what a run expects: the chain id, a 64-bit
number that the contracts observe too, the metadata, and a block gas limit at the floor. -/
structure Config.Agrees (config : Config) (expectations : Expectations) : Prop where
  chainId : config.chainId = expectations.chainId
  observed : config.observedChainId = config.chainId
  chainId_le : config.chainId ≤ u64Max
  name : config.name = expectations.name
  symbol : config.symbol = expectations.symbol
  version : config.version = expectations.version
  chainName : config.chainName = expectations.chainName
  floor : ∀ minimum, expectations.minGasLimit = some minimum → minimum ≤ config.gasLimit

section Agrees

variable {chain : Chain} {expectations : Expectations}

/-- A chain check passes on a chain whose settings agree, at a block whose timestamp computes. -/
theorem Config.Agrees.answers {contract : Option Address} {timestamp : Nat}
    (h : chain.config.Agrees expectations)
    (htime : Chain.timestampAt chain.config chain.blockNumber = .ok timestamp)
    (hcontract : ∀ address, contract = some address → chain.contracts.contains address = true) :
    ChainAnswers client chain expectations contract (chain.latest timestamp) :=
  chainAnswers htime h.chainId h.observed h.chainId_le h.floor hcontract

/-- The metadata of a contract on a chain whose settings agree, whatever its supply. -/
theorem Config.Agrees.metadata {config : Config} (h : config.Agrees expectations) (supply : Nat) :
    MetadataAgrees
      { name := config.name, symbol := config.symbol, totalSupply := supply,
        version := config.version, chainName := config.chainName,
        chainId := config.observedChainId } expectations (some supply) :=
  ⟨h.name, h.symbol, h.version, h.chainName, h.observed.trans h.chainId,
    fun _ hsome => Option.some.inj hsome⟩

end Agrees

/-! ### The contract and the records -/

/-- The contract holds every token of the table, with the recorded owner and URI. -/
def Collection.Holds (c : Collection) (tokens : Table Nat TokenRecord) : Prop :=
  ∀ record ∈ tokens.values, c.owners.get? record.tokenId = some record.owner ∧
    c.uris.get? record.tokenId = some record.uri

section Records

variable {c c' : Collection} {recipients : List Address} {uris : List String}

theorem Minted.owners_get? (h : Minted c c' recipients uris) {i : Nat}
    (hi : i < recipients.length) : c'.owners.get? (c.nextTokenId + i) = some recipients[i] := by
  have hi' := congrArg (·[i]?) h.owners_eq
  simpa [hi] using hi'

theorem Minted.uris_get? (h : Minted c c' recipients uris) {i : Nat} (hi : i < uris.length) :
    c'.uris.get? (c.nextTokenId + i) = some uris[i] := by
  have hlength : recipients.length = uris.length := by
    simpa using congrArg List.length h.uris_eq
  have hi' := congrArg (·[i]?) h.uris_eq
  simpa [hi, hlength] using hi'

/-- The tokens a test run records from the contract's next id `n` on: the single token, owned by
`owner`, then the batch to the first user, the second user and the deployer. -/
def testTokens (n : Nat) (owner user1 user2 deployer : Address) (single uri₀ uri₁ uri₂ : String) :
    Table Nat TokenRecord :=
  [(n, ⟨n, owner, single⟩), (n + 1, ⟨n + 1, user1, uri₀⟩), (n + 2, ⟨n + 2, user2, uri₁⟩),
    (n + 3, ⟨n + 3, deployer, uri₂⟩)]

variable {n : Nat} {owner user1 user2 deployer : Address} {single uri₀ uri₁ uri₂ : String}

theorem Collection.holds_testTokens :
    c.Holds (testTokens n owner user1 user2 deployer single uri₀ uri₁ uri₂) ↔
      (c.owners.get? n = some owner ∧ c.uris.get? n = some single) ∧
      (c.owners.get? (n + 1) = some user1 ∧ c.uris.get? (n + 1) = some uri₀) ∧
      (c.owners.get? (n + 2) = some user2 ∧ c.uris.get? (n + 2) = some uri₁) ∧
      (c.owners.get? (n + 3) = some deployer ∧ c.uris.get? (n + 3) = some uri₂) := by
  simp [Collection.Holds, testTokens, Table.values]

/-- The ids of a test run's tokens fit 64 bits when the last does, and their URIs are short when
the run's are. -/
theorem testTokens_fit (hids : n + 3 ≤ u64Max)
    (hshort : ∀ s ∈ [single, uri₀, uri₁, uri₂], Short s) :
    ∀ record ∈ (testTokens n owner user1 user2 deployer single uri₀ uri₁ uri₂).values,
      record.tokenId ≤ u64Max ∧ Short record.uri := by
  intro record hrecord
  simp only [testTokens, Table.values, List.map_cons, List.map_nil, List.mem_cons,
    List.not_mem_nil, or_false] at hrecord
  rcases hrecord with rfl | rfl | rfl | rfl <;> exact ⟨by dsimp only; omega, hshort _ (by simp)⟩

end Records

/-- A contract that holds the recorded tokens answers each one's owner and URI back, when stale
owner reads are off, the ids fit 64 bits and the URIs are short. -/
theorem Collection.Holds.readsBack {chain : Chain} {address : Address} {c : Collection}
    {tokens : Table Nat TokenRecord} (h : c.Holds tokens) (hstale : chain.staleOwnerReads = false)
    (hget : chain.contracts.get? address = some c)
    (hfit : ∀ record ∈ tokens.values, record.tokenId ≤ u64Max ∧ Short record.uri) :
    ∀ record ∈ tokens.values,
      ReadsBack client chain address (Contract.ownerOf record.tokenId) Token.asAddress
        record.owner ∧
      ReadsBack client chain address (Contract.tokenUri record.tokenId) Token.asString
        record.uri := by
  intro record hrecord
  obtain ⟨howner, huri⟩ := h record hrecord
  obtain ⟨hid, hshort⟩ := hfit record hrecord
  exact ⟨readsBack_ownerOf hstale hget hid howner, readsBack_tokenUri hget hid howner huri hshort⟩

/-! ### The phases -/

section Phases

variable {expectations : Expectations} {p : Progress}

/-- On a settled chain whose settings agree, the deployment between its gates passes when the
blocks before and after it have timestamps. It leaves the new contract at the deployer's creation
address, administered by the deployer, with the initial supply minted, in the next block. -/
theorem simulated_deployAndVerify_passes {chain : Chain} {artifact : Artifact}
    {deployer : Address} {timestamp : Nat} (hphase : p.phase = .deploying)
    (hnone : p.contract = none) (hsettled : chain.Settled chain)
    (hagrees : chain.config.Agrees expectations)
    (hsigner : chain.signers.contains deployer = true) (hzero : deployer ≠ Address.zero)
    (hcode : artifact.bytecode ≠ []) (hcreated : chain.creationAddress deployer ≠ Address.zero)
    (htime : Chain.timestampAt chain.config (chain.blockNumber + 1) = .ok timestamp) :
    ∃ c chain', chain.Settled chain' ∧ chain'.blockNumber = chain.blockNumber + 1 ∧
      chain'.contracts.get? (chain.creationAddress deployer) = some c ∧ c.admin = deployer ∧
      c.nextTokenId = chain.config.premintedSupply + 1 ∧
      c.totalSupply = chain.config.premintedSupply ∧
      ∀ (demoMints : DemoMints) (context : Context), context.Shows p →
        Passes (({ client, expectations, demoMints } : Orchestrator Chain).deployAndVerify
          artifact deployer) ⟨chain, context⟩ () chain'
          { p with
            phase := .chainVerified, contract := some (chain.creationAddress deployer) } := by
  obtain ⟨c, deployment, receipt, chain', hdeploy, hreceipt, haddress, hsettled', hblock, hget,
    hadmin, hnext, hsupply⟩ := deploy_creates hsigner hzero hcode hsettled.dropNext
      hsettled.revertNext hsettled.staleOwnerReads hcreated
  obtain ⟨timestamp₀, htime₀⟩ := Chain.timestampAt_ok_of_le (Nat.le_succ _) htime
  have hpre : ChainAnswers client chain expectations none (chain.latest timestamp₀) :=
    hagrees.answers htime₀ (by intro _ h; cases h)
  have hagrees' : chain'.config.Agrees expectations := by rw [hsettled'.config_eq]; exact hagrees
  have hpost : ChainAnswers client chain' expectations (some (chain.creationAddress deployer))
      (chain'.latest timestamp) := by
    refine hagrees'.answers (by rw [hsettled'.config_eq, hblock]; exact htime) ?_
    intro address haddress'
    rw [← Option.some.inj haddress']
    exact contains_of_get? hget
  exact ⟨c, chain', hsettled', hblock, hget, hadmin, hnext, hsupply, fun _ context hs =>
    Run.Orchestrator.deployAndVerify_passes _ hs hphase hnone hpre (ends_balanceOf chain deployer)
      hdeploy hreceipt haddress hpost⟩

/-- On a settled chain, the mint phase passes on a contract that the deployer administers and
whose ids and supply leave room for four more tokens, when the recipients are not zero and the
URIs are short. It records the four next ids: the single token to the first user and the batch to
the first user, the second user and the deployer. The contract then holds them, with its supply
grown by four, two blocks later. -/
theorem simulated_mintPhase_passes {chain : Chain} {c : Collection} {address deployer : Address}
    (user1 user2 : Address) {single uri₀ uri₁ uri₂ : String}
    (hphase : p.phase = .chainVerified) (hcontract : p.contract = some address)
    (htokens : p.tokens = []) (hsettled : chain.Settled chain)
    (hsigner : chain.signers.contains deployer = true)
    (hget : chain.contracts.get? address = some c) (hadmin : c.admin = deployer)
    (hnonzero : ∀ r ∈ [user1, user2, deployer], r ≠ Address.zero)
    (hshort : ∀ s ∈ [single, uri₀, uri₁, uri₂], Short s)
    (hids : c.nextTokenId + 4 ≤ u64Bound) (hsupply : c.totalSupply + 4 ≤ u64Max) :
    let n := c.nextTokenId
    let minted := testTokens n user1 user1 user2 deployer single uri₀ uri₁ uri₂
    ∃ c' chain', chain.Settled chain' ∧ chain'.blockNumber = chain.blockNumber + 2 ∧
      chain'.contracts.get? address = some c' ∧ c'.totalSupply = c.totalSupply + 4 ∧
      c'.Holds minted ∧
      ∀ (expectations : Expectations) (context : Context), context.Shows p →
        Passes (({ client, expectations, demoMints := ⟨single, [uri₀, uri₁, uri₂]⟩ } :
          Orchestrator Chain).mintPhase deployer user1 user2) ⟨chain, context⟩ (some n) chain'
          { p with phase := .minting, baseline := some c.totalSupply, tokens := minted } := by
  intro n minted
  obtain ⟨c₁, chain₁, hminted₁, hadmin₁, hsettled₁, hblock₁, hget₁, hsingle⟩ :=
    mint_includes (.single user1 single) hsigner hsettled.dropNext hsettled.revertNext
      hsettled.staleOwnerReads hget hadmin.symm
      (fun r hr => hnonzero r (by rw [List.mem_singleton.1 hr]; simp)) rfl
      (List.cons_ne_nil _ _) (length_safeMint_calldata_le user1 (hshort single (by simp)))
      (by simp only [List.length_singleton]; omega)
  have hnext₁ : c₁.nextTokenId = n + 1 := hminted₁.next_eq
  obtain ⟨c₂, chain₂, hminted₂, -, hsettled₂, hblock₂, hget₂, hbatch⟩ :=
    mint_includes (.batch [user1, user2, deployer] [uri₀, uri₁, uri₂])
      (hsettled₁.signers_eq ▸ hsigner) hsettled₁.dropNext hsettled₁.revertNext
      hsettled₁.staleOwnerReads hget₁ (hadmin₁.trans hadmin).symm hnonzero rfl
      (List.cons_ne_nil _ _)
      (length_batchMint_calldata_le rfl rfl fun s hs' => hshort s (List.mem_cons_of_mem _ hs'))
      (by simp only [List.length_cons, List.length_nil]; omega)
  have hsupply₂ : c₂.totalSupply = c.totalSupply + 4 := by
    rw [hminted₂.supply_eq, hminted₁.supply_eq]
    rfl
  have hrecorded : recordBatch (p.tokens.insert n ⟨n, user1, single⟩)
      (List.range' c₁.nextTokenId 3) [user1, user2, deployer] [uri₀, uri₁, uri₂] = minted := by
    rw [hnext₁, show List.range' (n + 1) 3 = [n + 1, n + 2, n + 3] from rfl]
    simp [htokens, recordBatch, Table.insert, Table.contains, minted, testTokens]
  refine ⟨c₂, chain₂, hsettled₁.trans hsettled₂, by rw [hblock₂, hblock₁], hget₂, hsupply₂, ?_, ?_⟩
  · have hbelow : n < c₁.nextTokenId := by omega
    have howner : c₂.owners.get? n = some user1 := by
      rw [hminted₂.owners_below n hbelow]
      simpa using hminted₁.owners_get? (i := 0) (by simp)
    have huri : c₂.uris.get? n = some single := by
      rw [hminted₂.uris_below n hbelow]
      simpa using hminted₁.uris_get? (i := 0) (by simp)
    have howners := fun i (hi : i < 3) => hminted₂.owners_get? (i := i) (by simpa using hi)
    have huris := fun i (hi : i < 3) => hminted₂.uris_get? (i := i) (by simpa using hi)
    rw [hnext₁] at howners huris
    exact Collection.holds_testTokens.2 ⟨⟨howner, huri⟩,
      ⟨howners 0 (by decide), huris 0 (by decide)⟩, ⟨howners 1 (by decide), huris 1 (by decide)⟩,
      ⟨howners 2 (by decide), huris 2 (by decide)⟩⟩
  · intro _ context hs
    refine Run.Orchestrator.mintPhase_passes _ hs hphase hcontract
      (readsBack_totalSupply hget (by omega)) hsingle rfl hbatch hrecorded
      (by simp only [minted, testTokens, List.length_cons, List.length_nil]; omega) ?_
    have hread := readsBack_totalSupply hget₂ (by omega)
    rw [hsupply₂] at hread
    exact hread

/-- On a settled chain, the transfer phase passes when the contract holds the minted tokens and
the first user, who owns the single token, signs: the token goes to the second user, who is not
zero, in the next block, and every token then reads back as the run recorded it. -/
theorem simulated_transferPhase_passes {chain : Chain} {c : Collection} {n : Nat}
    {address deployer user1 user2 : Address} {single uri₀ uri₁ uri₂ : String}
    (hphase : p.phase = .minting) (hcontract : p.contract = some address)
    (htokens : p.tokens = testTokens n user1 user1 user2 deployer single uri₀ uri₁ uri₂)
    (hsettled : chain.Settled chain) (hsigner : chain.signers.contains user1 = true)
    (hget : chain.contracts.get? address = some c)
    (hholds : c.Holds (testTokens n user1 user1 user2 deployer single uri₀ uri₁ uri₂))
    (htarget : user2 ≠ Address.zero) (hids : n + 3 ≤ u64Max)
    (hshort : ∀ s ∈ [single, uri₀, uri₁, uri₂], Short s) :
    let moved := testTokens n user2 user1 user2 deployer single uri₀ uri₁ uri₂
    ∃ c' chain', chain.Settled chain' ∧ chain'.blockNumber = chain.blockNumber + 1 ∧
      chain'.contracts.get? address = some c' ∧ c'.totalSupply = c.totalSupply ∧ c'.Holds moved ∧
      ∀ (expectations : Expectations) (demoMints : DemoMints) (context : Context),
        context.Shows p →
        Passes (({ client, expectations, demoMints } : Orchestrator Chain).transferPhase (some n)
          user1 user2) ⟨chain, context⟩ () chain'
          { p with phase := .transferring, tokens := moved } := by
  intro moved
  obtain ⟨⟨howner, huri⟩, hbatch₀, hbatch₁, hbatch₂⟩ := Collection.holds_testTokens.1 hholds
  obtain ⟨chain', hsettled', hblock, hget', hsend⟩ := transfer_includes hsigner hsettled.dropNext
    hsettled.revertNext hsettled.staleOwnerReads hget howner htarget (by omega)
  have hmoved : ({ c with approvals := c.approvals.erase n, owners := c.owners.insert n user2 } :
      Collection).Holds moved := by
    refine Collection.holds_testTokens.2 ⟨⟨by simp, huri⟩, ?_, ?_, ?_⟩ <;> simpa
  have hrecord : p.tokens.get? n = some ⟨n, user1, single⟩ := by
    simp [htokens, testTokens, Table.get?]
  have hrecorded : ∀ c : Context, c.tokens = p.tokens → (c.setOwner n user2).tokens = moved := by
    intro c hc
    simp [Context.setOwner, hc, htokens, moved, testTokens]
  refine ⟨_, chain', hsettled', hblock, hget', rfl, hmoved, fun _ _ context hs => ?_⟩
  refine Run.Orchestrator.transferPhase_passes _ hs hphase hcontract hrecord hsend ?_ hrecorded
    (hmoved.readsBack hsettled'.staleOwnerReads hget' (testTokens_fit hids hshort))
  exact readsBack_ownerOf hsettled'.staleOwnerReads hget' (by omega) (by simp)

/-- On a chain whose settings agree, the validation phase passes, and the run completes, when the
latest block has a timestamp, the contract's supply is the baseline plus the tokens recorded, a
number that fits 64 bits, and the expected texts are short. -/
theorem simulated_validatePhase_passes {chain : Chain} {c : Collection} {address : Address}
    {baseline timestamp : Nat} {demoMints : DemoMints} {context : Context} (hs : context.Shows p)
    (hphase : p.phase = .transferring) (hcontract : p.contract = some address)
    (hbaseline : p.baseline = some baseline)
    (hagrees : chain.config.Agrees expectations) (hget : chain.contracts.get? address = some c)
    (hsupply : c.totalSupply = baseline + p.tokens.length) (hfits : c.totalSupply ≤ u64Max)
    (htime : Chain.timestampAt chain.config chain.blockNumber = .ok timestamp)
    (htexts : ∀ s ∈ [expectations.name, expectations.symbol, expectations.version,
      expectations.chainName], Short s) :
    Passes (({ client, expectations, demoMints } : Orchestrator Chain).validatePhase)
      ⟨chain, context⟩ () chain { p with phase := .completed } := by
  have hcheck : ChainAnswers client chain expectations p.contract (chain.latest timestamp) := by
    refine hagrees.answers htime ?_
    intro address' haddress
    rw [hcontract, Option.some.injEq] at haddress
    rw [← haddress]
    exact contains_of_get? hget
  have htexts' : ∀ s ∈ [chain.config.name, chain.config.symbol, chain.config.version,
      chain.config.chainName], Short s := by
    rw [hagrees.name, hagrees.symbol, hagrees.version, hagrees.chainName]
    exact htexts
  refine Run.Orchestrator.validatePhase_passes _ hs hphase hcontract hcheck
    (read_getContractInfo hget htexts')
    (ContractInfo.ofTokens_toTokens hfits (by rw [hagrees.observed]; exact hagrees.chainId_le))
    ?_ ?_
  · intro baseline' hbaseline'
    rw [hbaseline, Option.some.injEq] at hbaseline'
    omega
  · rw [hbaseline, Option.map_some, ← hsupply]
    exact hagrees.metadata c.totalSupply

/-- A test run passes on a chain reached from a fresh one, with no fault pending and stale owner
reads off, whose settings agree with the expectations and which offers three signers. It deploys
at the first signer's creation address and records the four ids after the initial supply: the
single token, moved to the second user, and the batch to the first user, the second user and the
deployer; the contract then holds them as recorded. -/
theorem simulated_executeFull_passes {config : Config} {events : List Event} {chain : Chain}
    {artifact : Artifact} {single uri₀ uri₁ uri₂ : String} {timestamp : Nat}
    (hrun : Runs (Chain.create config) events chain) (hrevert : chain.revertNext = false)
    (hdrop : chain.dropNext = false) (hstale : chain.staleOwnerReads = false)
    (hagrees : config.Agrees expectations) (hsigners : 3 ≤ config.signerCount)
    (hsupply : config.premintedSupply + 4 ≤ u64Max)
    (htime : Chain.timestampAt config (chain.blockNumber + 4) = .ok timestamp)
    (hcreated : chain.creationAddress (signerAddress 0) ≠ Address.zero)
    (hcode : artifact.bytecode ≠ [])
    (htexts : ∀ s ∈ [expectations.name, expectations.symbol, expectations.version,
      expectations.chainName], Short s) (huris : ∀ s ∈ [single, uri₀, uri₁, uri₂], Short s) :
    let address := chain.creationAddress (signerAddress 0)
    let recorded := testTokens (config.premintedSupply + 1) (signerAddress 2) (signerAddress 1)
      (signerAddress 2) (signerAddress 0) single uri₀ uri₁ uri₂
    ∃ c chain', chain.Settled chain' ∧ chain'.contracts.get? address = some c ∧
      c.Holds recorded ∧ ∀ context : Context, context.Shows ⟨.idle, none, [], none⟩ →
        Passes (({ client, expectations, demoMints := ⟨single, [uri₀, uri₁, uri₂]⟩ } :
          Orchestrator Chain).executeFull artifact) ⟨chain, context⟩ () chain'
          ⟨.completed, some address, recorded, some config.premintedSupply⟩ := by
  intro address recorded
  have hconfig : chain.config = config := hrun.config_eq
  have hsettled := Chain.settled_self hrevert hdrop hstale
  have hagrees₀ : chain.config.Agrees expectations := hconfig ▸ hagrees
  obtain ⟨hdeployer, hcontains₀, hnonzero₀⟩ := hrun.first_signers hsigners (show 0 < 3 by decide)
  obtain ⟨huser1, hcontains₁, hnonzero₁⟩ := hrun.first_signers hsigners (show 1 < 3 by decide)
  obtain ⟨huser2, -, hnonzero₂⟩ := hrun.first_signers hsigners (show 2 < 3 by decide)
  obtain ⟨timestamp₁, htime₁⟩ :=
    Chain.timestampAt_ok_of_le (show chain.blockNumber + 1 ≤ chain.blockNumber + 4 by omega) htime
  rw [← hconfig] at htime₁ htime
  obtain ⟨c₁, chain₁, hsettled₁, hblock₁, hget₁, hadmin₁, hnext₁, hsupply₁, hdeploy⟩ :=
    simulated_deployAndVerify_passes (p := ⟨.deploying, none, [], none⟩) rfl rfl hsettled
      hagrees₀ hcontains₀ hnonzero₀ hcode hcreated htime₁
  have hrecipients : ∀ r ∈ [signerAddress 1, signerAddress 2, signerAddress 0],
      r ≠ Address.zero := by
    simp [hnonzero₀, hnonzero₁, hnonzero₂]
  have hnext : c₁.nextTokenId + 4 ≤ u64Bound := by
    rw [hnext₁, hconfig]
    simp only [u64Max, u64Bound] at hsupply ⊢
    omega
  obtain ⟨c₂, chain₂, hsettled₂, hblock₂, hget₂, htotal₂, hholds₂, hmint⟩ :=
    simulated_mintPhase_passes (p := ⟨.chainVerified, some address, [], none⟩) (signerAddress 1)
      (signerAddress 2) rfl rfl rfl hsettled₁.quiet (hsettled₁.signers_eq ▸ hcontains₀) hget₁
      hadmin₁ hrecipients huris hnext (by rw [hsupply₁, hconfig]; exact hsupply)
  rw [hnext₁, hconfig] at hholds₂
  rw [hnext₁, hsupply₁, hconfig] at hmint
  obtain ⟨c₃, chain₃, hsettled₃, hblock₃, hget₃, htotal₃, hholds₃, htransfer⟩ :=
    simulated_transferPhase_passes (p := ⟨.minting, some address, testTokens
      (config.premintedSupply + 1) (signerAddress 1) (signerAddress 1) (signerAddress 2)
      (signerAddress 0) single uri₀ uri₁ uri₂, some config.premintedSupply⟩) rfl rfl rfl
      hsettled₂.quiet (by rw [hsettled₂.signers_eq, hsettled₁.signers_eq]; exact hcontains₁)
      hget₂ hholds₂ hnonzero₂ (by omega) huris
  have hsettled₃' := (hsettled₁.trans hsettled₂).trans hsettled₃
  have hagrees₃ : chain₃.config.Agrees expectations := hsettled₃'.config_eq ▸ hagrees₀
  have htime₃ : Chain.timestampAt chain₃.config chain₃.blockNumber = .ok timestamp := by
    rw [hsettled₃'.config_eq, hblock₃, hblock₂, hblock₁]
    exact htime
  have htotal : c₃.totalSupply = config.premintedSupply + 4 := by
    rw [htotal₃, htotal₂, hsupply₁, hconfig]
  refine ⟨c₃, chain₃, hsettled₃', hget₃, hholds₃, fun context hs => ?_⟩
  unfold Run.Orchestrator.executeFull
  refine (Run.Orchestrator.start_passes _ hs rfl (ends_signers chain)
    (by rw [hrun.signers_eq, Chain.length_create_signers]; exact hsigners)).bind
    fun context₁ hs₁ => ?_
  refine (Run.Orchestrator.signerAt_passes hs₁ hdeployer).bind fun context₂ hs₂ => ?_
  refine (Run.Orchestrator.signerAt_passes hs₂ huser1).bind fun context₃ hs₃ => ?_
  refine (Run.Orchestrator.signerAt_passes hs₃ huser2).bind fun context₄ hs₄ => ?_
  refine (emit_passes hs₄).bind fun context₅ hs₅ => ?_
  refine (hdeploy _ context₅ hs₅).bind fun context₆ hs₆ => ?_
  refine (hmint _ context₆ hs₆).bind fun context₇ hs₇ => ?_
  refine (htransfer _ _ context₇ hs₇).bind fun context₈ hs₈ => ?_
  exact simulated_validatePhase_passes hs₈ rfl rfl rfl hagrees₃ hget₃ htotal (by omega) htime₃
    htexts

end Phases

/-! ### The report -/

/-- A test run on a simulated chain in any state reached from a fresh one, with no fault pending
and stale owner reads off, whose settings agree with the expectations, which offers three signers
and whose initial supply `p` leaves room for four more tokens, completes and passes under the
strict exit policy. Its report names the contract created at the first signer's creation address,
the baseline supply `p`, and the four tokens after it: the single token, moved to the second user,
and the batch to the first user, the second user and the deployer. The contract then answers
every recorded owner and URI back. -/
theorem test_run_passes_on_simulated_chain {config : Config} {expectations : Expectations}
    {events : List Event} {chain : Chain} {artifact : Artifact} {timestamp : Nat}
    (hrun : Runs (Chain.create config) events chain) (hrevert : chain.revertNext = false)
    (hdrop : chain.dropNext = false) (hstale : chain.staleOwnerReads = false)
    (hagrees : config.Agrees expectations) (hsigners : 3 ≤ config.signerCount)
    (hsupply : config.premintedSupply + 4 ≤ u64Max)
    (htime : Chain.timestampAt config (chain.blockNumber + 4) = .ok timestamp)
    (hcreated : chain.creationAddress (signerAddress 0) ≠ Address.zero)
    (hcode : artifact.bytecode ≠ [])
    (htexts : ∀ s ∈ [expectations.name, expectations.symbol, expectations.version,
      expectations.chainName], Short s)
    (single uri₀ uri₁ uri₂ : String) (huris : ∀ s ∈ [single, uri₀, uri₁, uri₂], Short s)
    (runId startedAt finishedAt : String) (log : Array LogRecord) :
    let o : Orchestrator Chain :=
      { client, expectations, demoMints := ⟨single, [uri₀, uri₁, uri₂]⟩ }
    let address := chain.creationAddress (signerAddress 0)
    let p := config.premintedSupply
    ∃ chain' context log', (o.runWorkflow .test runId startedAt artifact chain).run log =
        .ok ((chain', context), log') ∧
      let report := Report.ofContext context finishedAt
      report.finalState = .completed ∧ report.success = true ∧ report.passes .strict = true ∧
      report.deployment.map (·.contractAddress) = some address ∧
      report.baselineSupply = some p ∧
      report.tokens = [⟨p + 1, signerAddress 2, single⟩, ⟨p + 2, signerAddress 1, uri₀⟩,
        ⟨p + 3, signerAddress 2, uri₁⟩, ⟨p + 4, signerAddress 0, uri₂⟩] ∧
      ∀ record ∈ report.tokens,
        ReadsBack client chain' address (ownerOf record.tokenId) Token.asAddress record.owner ∧
        ReadsBack client chain' address (tokenUri record.tokenId) Token.asString record.uri := by
  intro o address p
  obtain ⟨c, chain', hsettled, hget, hholds, hpasses⟩ :=
    simulated_executeFull_passes hrun hrevert hdrop hstale hagrees hsigners hsupply htime hcreated
      hcode htexts huris
  obtain ⟨context, log', hworkflow, hshows⟩ := Run.Orchestrator.runWorkflow_passes o
    (hpasses _ (Context.shows_create runId startedAt .test)) log
  have htokens : (Report.ofContext context finishedAt).tokens =
      (testTokens (config.premintedSupply + 1) (signerAddress 2) (signerAddress 1)
        (signerAddress 2) (signerAddress 0) single uri₀ uri₁ uri₂).values := by
    simp only [Report.ofContext, Context.tokenRecords, hshows.tokens_eq]
  refine ⟨chain', context, log', hworkflow, hshows.phase_eq, hshows.report_passes rfl finishedAt
    .fatalOnly, hshows.report_passes rfl finishedAt .strict, hshows.contract_eq,
    hshows.baseline_eq, by rw [htokens]; rfl, ?_⟩
  rw [htokens]
  exact hholds.readsBack hsettled.staleOwnerReads hget
    (testTokens_fit (by omega) huris)

/-- The address of the first contract that the deployer creates, evaluated by the kernel from
the deployer's account, itself evaluated once. -/
def firstContractAccount : { a : Address // contractAddress deployerAccount.1 0 = a } :=
  ⟨Address.ofNatWrap 1356457775861332265693447825093969131331532275346,
    by rw [contractAddress, Keccak.hash_eq_lanesHash]; decide +kernel⟩

/-- On a fresh chain, the first signer's creation address is not zero. -/
theorem create_creationAddress_ne_zero (config : Config) :
    (Chain.create config).creationAddress (signerAddress 0) ≠ Address.zero := by
  rw [Chain.creationAddress_eq, show (Chain.create config).nonce (signerAddress 0) = 0 from rfl,
    deployerAccount.property, firstContractAccount.property]
  decide

/-- The first test run on a fresh chain with the default settings and expectations, the
demonstration init code and the demonstration mints. -/
theorem default_test_run_passes :
    (Chain.create {}).creationAddress (signerAddress 0) ≠ Address.zero ∧
    ({} : Config).Agrees {} ∧
    ∃ chain' context log', (({ client } : Orchestrator Chain).runWorkflow .test "run" ""
        ⟨defaultContractName, demoBytecode⟩ (Chain.create {})).run #[] =
        .ok ((chain', context), log') ∧
      let report := Report.ofContext context ""
      report.finalState = .completed ∧ report.success = true ∧ report.passes .strict = true ∧
      report.deployment.map (·.contractAddress) =
        some ((Chain.create {}).creationAddress (signerAddress 0)) ∧
      report.baselineSupply = some 0 ∧
      report.tokens = [⟨1, signerAddress 2, demoSingleMintUri⟩,
        ⟨2, signerAddress 1, "ipfs://QmBatchNFT1MetadataHash"⟩,
        ⟨3, signerAddress 2, "ipfs://QmBatchNFT2MetadataHash"⟩,
        ⟨4, signerAddress 0, "ipfs://QmBatchNFT3MetadataHash"⟩] ∧
      ∀ record ∈ report.tokens,
        ReadsBack client chain' ((Chain.create {}).creationAddress (signerAddress 0))
          (ownerOf record.tokenId) Token.asAddress record.owner ∧
        ReadsBack client chain' ((Chain.create {}).creationAddress (signerAddress 0))
          (tokenUri record.tokenId) Token.asString record.uri := by
  have hagrees : ({} : Config).Agrees {} :=
    ⟨rfl, rfl, by decide, rfl, rfl, rfl, rfl, by intro _ h; cases h⟩
  have htexts : ∀ s ∈ [expectedContractName, expectedContractSymbol, expectedContractVersion,
      expectedChainName], Short s := by
    unfold Short
    decide
  have huris : ∀ s ∈ [demoSingleMintUri, "ipfs://QmBatchNFT1MetadataHash",
      "ipfs://QmBatchNFT2MetadataHash", "ipfs://QmBatchNFT3MetadataHash"], Short s := by
    unfold Short
    decide
  have hrun : Runs (Chain.create {}) [] (Chain.create {}) := runs_nil.2 rfl
  have hsupply : ({} : Config).premintedSupply + 4 ≤ u64Max := by decide
  have htime : Chain.timestampAt {} ((Chain.create {}).blockNumber + 4) = .ok 1700000001 := by
    decide
  have hcode : demoBytecode ≠ [] := by decide
  exact ⟨create_creationAddress_ne_zero {}, hagrees,
    test_run_passes_on_simulated_chain hrun rfl rfl rfl hagrees (le_refl 3) hsupply htime
      (create_creationAddress_ne_zero {}) hcode htexts _ _ _ _ huris "run" "" "" #[]⟩

end NftProbe.Sim
