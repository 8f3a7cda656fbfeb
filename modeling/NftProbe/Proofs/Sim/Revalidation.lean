import NftProbe.Proofs.Run.Metadata
import NftProbe.Proofs.Sim.Reads
import NftProbe.Proofs.Sim.Runs

/-!
# Validating the metadata once and again

The metadata validation makes one read and records by its answer alone, with the context's
baseline supply and count of tokens (`Run.validateMetadata_records`). Against the simulated chain
that answer depends only on the contract at the deployed address and the chain's settings
(`read_getContractInfo_agrees`), and the read never halts: the metadata has no array to size.
Events that are neither creations nor transactions (`Event.mutates`) change neither
(`Runs.quiet`), and the validation changes nothing but the outcomes. So two validations with no
creation or transaction between them return the same metadata, or the same error, and append the
same outcomes (`validation_repeats`).

The one place where the validation can halt is the supply it expects, the baseline plus the
tokens recorded, computed in 64 bits: with the largest baseline there is and one token recorded,
a validation whose read answers and decodes halts before comparing any field
(`validation_halts_past_supply`).
-/

set_option autoImplicit false

namespace NftProbe.Sim

open Abi Contract Run StepM

variable {chain chain' : Chain}

/-! ### The read of the metadata -/

/-- The read of the metadata answers from the contract at the address and the chain's settings
alone: two chains that agree on those give one answer. The read never halts, since the metadata
has no array to size. -/
theorem read_getContractInfo_agrees {chain₁ chain₂ : Chain} {target : Address}
    (hcontract : chain₂.contracts.get? target = chain₁.contracts.get? target)
    (hconfig : chain₂.config = chain₁.config) :
    ∃ r, Ends (read target getContractInfo) chain₁ r chain₁ ∧
      Ends (read target getContractInfo) chain₂ r chain₂ := by
  cases hc : chain₁.contracts.get? target with
  | none => exact ⟨_, read_unknownContract hc _, read_unknownContract (hcontract.trans hc) _⟩
  | some c =>
    have hquery : ∀ chain : Chain, chain.config = chain₁.config →
        (query chain.config chain.snapshotOf chain.staleOwnerReads c
          getContractInfo.calldata).run =
          .ok (.ok (chain₁.config.contractInfo c.totalSupply).toTokens) :=
      fun chain hsame => by
        rw [query_getContractInfo, hsame]
        rfl
    obtain ⟨result, hdecode⟩ := decode_answers_of_static
      (by simp [getContractInfo, contractInfoTypes] :
        ∀ item, ParamType.array item ∉ getContractInfo.returns)
      (encode (chain₁.config.contractInfo c.totalSupply).toTokens)
    exact ⟨_, read_decodes hc (hquery chain₁ rfl) hdecode,
      read_decodes (hcontract.trans hc) (hquery chain₂ hconfig) hdecode⟩

/-- The read of the metadata answers from every state of the chain. -/
theorem read_getContractInfo_total (target : Address) : (read target getContractInfo).Total := by
  intro chain log
  obtain ⟨r, hend, -⟩ := @read_getContractInfo_agrees chain chain target rfl rfl
  obtain ⟨log', hrun⟩ := hend log
  exact ⟨r, chain, log', hrun⟩

/-! ### Events that create nothing and send nothing -/

/-- Whether an event is a creation or a transaction, the calls the chain counts as mutating. -/
def Event.mutates : Event → Bool
  | .call (.deploy _ _ _ _) => true
  | .call (.send _ _ _ _) => true
  | _ => false

/-- An event that is neither a creation nor a transaction keeps the contracts and the settings;
only the switches may change. -/
theorem Event.Step.quiet {event : Event} (h : event.Step chain chain')
    (hquiet : event.mutates = false) :
    chain'.contracts = chain.contracts ∧ chain'.config = chain.config := by
  cases h.books with
  | idle => exact ⟨rfl, rfl⟩
  | numbered => exact ⟨rfl, rfl⟩
  | included _ _ hreceipt =>
    cases event with
    | call exchange =>
      cases exchange <;> simp [Event.mutates, Event.receipt?] at hquiet hreceipt
    | _ => simp [Event.receipt?] at hreceipt

/-- A run of events none of which is a creation or a transaction keeps the contracts and the
settings. -/
theorem Runs.quiet {events : List Event} (hrun : Runs chain events chain')
    (hquiet : ∀ event ∈ events, event.mutates = false) :
    chain'.contracts = chain.contracts ∧ chain'.config = chain.config := by
  induction events generalizing chain with
  | nil =>
    rw [runs_nil] at hrun
    subst hrun
    exact ⟨rfl, rfl⟩
  | cons event events ih =>
    obtain ⟨chain₁, hstep, hrest⟩ := hrun
    obtain ⟨hcontracts₁, hconfig₁⟩ := hstep.quiet (hquiet event List.mem_cons_self)
    obtain ⟨hcontracts, hconfig⟩ :=
      ih hrest fun event' hmem => hquiet event' (List.mem_cons_of_mem _ hmem)
    exact ⟨hcontracts.trans hcontracts₁, hconfig.trans hconfig₁⟩

/-! ### The validation, twice -/

/-- Two validations against the simulated chain, the second from the context the first left and a
chain reached from where the first ended by events that are neither creations nor transactions,
return the same metadata, or the same error, and append the same outcomes. -/
theorem validation_repeats (expectations : Expectations) {s s₁ s₂ : Session Chain}
    {d : DeploymentResult} (hd : s.context.deployment = some d)
    {log log₁ log₂ log₂' : Array LogRecord}
    {r₁ r₂ : Except HarnessError ContractInfo}
    (h₁ : exec (validateMetadata client expectations) s log = .ok ((r₁, s₁), log₁))
    {events : List Event} {chain₂ : Chain} (hrun : Runs s₁.client events chain₂)
    (hquiet : ∀ event ∈ events, event.mutates = false)
    (h₂ : exec (validateMetadata client expectations) ⟨chain₂, s₁.context⟩ log₂ =
      .ok ((r₂, s₂), log₂')) :
    r₂ = r₁ ∧ ∃ added, s₁.context = { s.context with outcomes := s.context.outcomes ++ added } ∧
      s₂.context = { s₁.context with outcomes := s₁.context.outcomes ++ added } := by
  obtain ⟨answer₁, hcalls₁, hok₁, herror₁⟩ := validateMetadata_records client expectations s hd h₁
  have hread₁ : (read d.contractAddress getContractInfo).Answers s.client answer₁ s₁.client :=
    Client.calls_singleton.1 hcalls₁
  have hkept : s₁.context.deployment = s.context.deployment ∧
      s₁.context.baselineSupply = s.context.baselineSupply ∧
      s₁.context.tokenCount = s.context.tokenCount := by
    cases hinfo : metadataOf answer₁ with
    | ok info => rw [(hok₁ info hinfo).2]; exact ⟨rfl, rfl, rfl⟩
    | error e => rw [(herror₁ e hinfo).2]; exact ⟨rfl, rfl, rfl⟩
  obtain ⟨answer₂, hcalls₂, hok₂, herror₂⟩ :=
    validateMetadata_records client expectations ⟨chain₂, s₁.context⟩ (hkept.1.trans hd) h₂
  have hread₂ : (read d.contractAddress getContractInfo).Answers chain₂ answer₂ s₂.client :=
    Client.calls_singleton.1 hcalls₂
  obtain ⟨hcontracts, hconfig⟩ := hrun.quiet hquiet
  rw [read_keeps hread₁] at hcontracts hconfig
  obtain ⟨r, hend₁, hend₂⟩ := read_getContractInfo_agrees
    (congrArg (·.get? d.contractAddress) hcontracts) hconfig
  have hsame : answer₂ = answer₁ :=
    (hend₂.answers_eq hread₂).1.trans (hend₁.answers_eq hread₁).1.symm
  subst hsame
  cases hinfo : metadataOf answer₂ with
  | ok info =>
    obtain ⟨rfl, hctx₁⟩ := hok₁ info hinfo
    obtain ⟨rfl, hctx₂⟩ := hok₂ info hinfo
    refine ⟨rfl, _, hctx₁, ?_⟩
    rw [hctx₂, hkept.2.1, hkept.2.2]
  | error e =>
    obtain ⟨rfl, hctx₁⟩ := herror₁ e hinfo
    obtain ⟨rfl, hctx₂⟩ := herror₂ e hinfo
    exact ⟨rfl, [.failed validationStep e], hctx₁, hctx₂⟩

/-! ### What the validation does -/

/-- What the metadata validation does. For every client and every run with a contract deployed,
the validation reads the metadata once. When the answer decodes, it records one outcome per
field, in the order name, symbol, version, chain name and chain id, then the supply against the
baseline plus the tokens recorded when the baseline is known, each passing exactly when the
expected and the read texts agree (`FieldCheck.outcome`), and returns the metadata whatever
differs; when the read fails or its answer does not decode, it records one failed outcome of the
step and returns the error. It returns whenever the client's read answers and the supply it
expects fits 64 bits. Against the simulated chain, two validations with no creation or
transaction between them return the same and append the same outcomes. -/
theorem metadata_validation_repeatable (expectations : Expectations) (d : DeploymentResult) :
    (∀ (σ : Type) (c : Client σ) (s : Session σ), s.context.deployment = some d →
      Ensures (validateMetadata c expectations) (fun r s' => ∃ answer,
        c.Calls s.client [.read d.contractAddress getContractInfo answer] s'.client ∧
        (∀ info, metadataOf answer = .ok info → r = .ok info ∧
          s'.context = { s.context with
            outcomes := s.context.outcomes ++ (metadataChecks expectations info
              (s.context.baselineSupply.map (· + s.context.tokenCount))).map
                FieldCheck.outcome }) ∧
        (∀ e, metadataOf answer = .error e → r = .error e ∧
          s'.context = s.context.record (.failed validationStep e))) s) ∧
    (∀ (σ : Type) (c : Client σ) (s : Session σ), s.context.deployment = some d →
      (c.read d.contractAddress getContractInfo).Total →
      (∀ baseline, s.context.baselineSupply = some baseline →
        baseline + s.context.tokenCount ≤ u64Max) →
      Completes (validateMetadata c expectations) (fun _ _ => True) s) ∧
    (∀ (s s₁ s₂ : Session Chain) (log log₁ log₂ log₂' : Array LogRecord)
      (r₁ r₂ : Except HarnessError ContractInfo) (events : List Event) (chain₂ : Chain),
      s.context.deployment = some d →
      exec (validateMetadata client expectations) s log = .ok ((r₁, s₁), log₁) →
      Runs s₁.client events chain₂ → (∀ event ∈ events, event.mutates = false) →
      exec (validateMetadata client expectations) ⟨chain₂, s₁.context⟩ log₂ =
        .ok ((r₂, s₂), log₂') →
      r₂ = r₁ ∧ ∃ added, s₁.context = { s.context with outcomes := s.context.outcomes ++ added } ∧
        s₂.context = { s₁.context with outcomes := s₁.context.outcomes ++ added }) :=
  ⟨fun _ c s hd => validateMetadata_records c expectations s hd,
    fun _ c s hd hread hfits => validateMetadata_completes c expectations s hd hread hfits,
    fun _ _ _ _ _ _ _ _ _ _ _ hd h₁ hrun hquiet h₂ =>
      validation_repeats expectations hd h₁ hrun hquiet h₂⟩

/-- The first signer's contract on a fresh chain with the default settings, deployed, with the
baseline supply `baseline` and the tokens `tokens` recorded. -/
def firstContractSession (chain : Chain) (baseline : Nat) (tokens : Table Nat TokenRecord) :
    Session Chain :=
  ⟨chain, { Context.create "run" "" .test with
    deployment := some
      { contractAddress := (Chain.create {}).creationAddress (signerAddress 0),
        deployerAddress := signerAddress 0, adminAddress := signerAddress 0,
        txHash := Hash32.zero, blockNumber := 1, gasUsed := 0 }
    baselineSupply := some baseline
    tokens }⟩

/-- On a fresh chain with the default settings, the first signer's contract reads back the
default metadata with no token. -/
theorem first_contract_metadata :
    ∃ chain, Reachable {} chain ∧
      Ends (read ((Chain.create {}).creationAddress (signerAddress 0)) getContractInfo) chain
        (.ok (({} : Config).contractInfo 0).toTokens) chain ∧
      ContractInfo.ofTokens (({} : Config).contractInfo 0).toTokens =
        .ok (({} : Config).contractInfo 0) := by
  obtain ⟨chain, hreach, hget, hconfig, -⟩ :=
    Reachable.first_creation (show 0 < ({} : Config).signerCount by decide)
      (show premint _ (signerAddress 0) 0 _ = .ok (Collection.create (signerAddress 0), []) from rfl)
  have htexts : ∀ s ∈ [chain.config.name, chain.config.symbol, chain.config.version,
      chain.config.chainName], Short s := by
    rw [hconfig]
    unfold Short
    decide
  have hfits : (chain.config.contractInfo (Collection.create (signerAddress 0)).totalSupply).Fits := by
    rw [hconfig]
    decide
  obtain ⟨hread, hinfo⟩ := read_contractInfo hget htexts
  rw [hconfig] at hread hinfo hfits
  exact ⟨chain, hreach, hread, hinfo hfits⟩

/-- On a fresh chain with the default settings, with the baseline supply known to be zero and no
token recorded, the validation of the first signer's contract returns the default metadata and
records six outcomes, all passed; validated again from where it ended, it returns the same and
records the same six outcomes once more. -/
theorem default_validation_passes :
    ∃ chain, Reachable {} chain ∧ ∀ log, ∃ s' log',
      exec (validateMetadata client {}) (firstContractSession chain 0 []) log =
        .ok ((.ok (({} : Config).contractInfo 0), s'), log') ∧
      s'.context.outcomes.length = 6 ∧ (∀ o ∈ s'.context.outcomes, o.success = true) ∧
      Completes (validateMetadata client {}) (fun r₂ s₂ =>
        r₂ = .ok (({} : Config).contractInfo 0) ∧
        s₂.context.outcomes = s'.context.outcomes ++ s'.context.outcomes) s' := by
  obtain ⟨chain, hreach, hread, hinfo⟩ := first_contract_metadata
  have hd : (firstContractSession chain 0 []).context.deployment = some _ := rfl
  have hfits : ∀ baseline, (firstContractSession chain 0 []).context.baselineSupply =
      some baseline → baseline + (firstContractSession chain 0 []).context.tokenCount ≤ u64Max := by
    intro baseline hbaseline
    cases hbaseline
    simp [firstContractSession, Context.tokenCount]
  refine ⟨chain, hreach, fun log => ?_⟩
  obtain ⟨r, s', log', h₁, -⟩ := (metadata_validation_repeatable {} _).2.1 Chain client
    (firstContractSession chain 0 []) hd (read_getContractInfo_total _) hfits log
  obtain ⟨answer, hcalls, hok, -⟩ := (metadata_validation_repeatable {} _).1 Chain client _ hd h₁
  have hanswer := (hread.answers_eq (Client.calls_singleton.1 hcalls)).1
  subst hanswer
  obtain ⟨rfl, hcontext⟩ :=
    hok (({} : Config).contractInfo 0) (by simp [metadataOf, hinfo, Except.mapError])
  have hpassed : ∀ o ∈ s'.context.outcomes, o.success = true := by
    rw [hcontext]
    simp [firstContractSession, Context.create, Context.tokenCount, metadataChecks,
      FieldCheck.outcome, Config.contractInfo, Config.observedChainId]
  refine ⟨s', log', h₁, by rw [hcontext]; rfl, hpassed, fun log₂ => ?_⟩
  have hd' : s'.context.deployment = (firstContractSession chain 0 []).context.deployment := by
    rw [hcontext]
  have hfits' : ∀ baseline, s'.context.baselineSupply = some baseline →
      baseline + s'.context.tokenCount ≤ u64Max := by
    rw [hcontext]
    exact hfits
  obtain ⟨r₂, s₂, log₂', h₂, -⟩ := (metadata_validation_repeatable {} _).2.1 Chain client s'
    (hd'.trans hd) (read_getContractInfo_total _) hfits' log₂
  obtain ⟨rfl, added, hctx₁, hctx₂⟩ := (metadata_validation_repeatable {} _).2.2 _ s' s₂ log
    log' log₂ log₂' _ r₂ [] s'.client hd h₁ (runs_nil.2 rfl) (by simp) h₂
  refine ⟨_, s₂, log₂', h₂, rfl, ?_⟩
  rw [hctx₂]
  simp [hctx₁, firstContractSession, Context.create]

/-- With the baseline supply at the top of the 64-bit range and one token recorded, the
validation of the first signer's contract halts on the expected supply, although the read of
the metadata answers and decodes. -/
theorem validation_halts_past_supply :
    ∃ chain, Reachable {} chain ∧
      Ends (read ((Chain.create {}).creationAddress (signerAddress 0)) getContractInfo) chain
        (.ok (({} : Config).contractInfo 0).toTokens) chain ∧
      ∀ log, ∃ overflow, exec (validateMetadata client {})
        (firstContractSession chain u64Max [(1, ⟨1, signerAddress 0, "ipfs://x"⟩)]) log =
          .error overflow := by
  obtain ⟨chain, hreach, hread, hinfo⟩ := first_contract_metadata
  have hanswer : ∀ answer client', client.Answers chain
      (.read ((Chain.create {}).creationAddress (signerAddress 0)) getContractInfo answer)
      client' → answer = .ok (({} : Config).contractInfo 0).toTokens :=
    fun _ _ h => (hread.answers_eq h).1
  have hoverflow : (firstContractSession chain u64Max
      [(1, ⟨1, signerAddress 0, "ipfs://x"⟩)]).context.expectedSupply = .error .add :=
    Context.expectedSupply_overflows rfl (show u64Max < u64Max + 1 by decide)
  have hd : (firstContractSession chain u64Max
      [(1, ⟨1, signerAddress 0, "ipfs://x"⟩)]).context.deployment = some _ := rfl
  exact ⟨chain, hreach, hread,
    (validateMetadata_halts client {} _ hd hanswer hinfo hoverflow).halts⟩

end NftProbe.Sim
