import NftProbe.Proofs.Client.Ends
import NftProbe.Proofs.Run.Mint
import NftProbe.Run.Orchestrator

/-!
# Steps that pass

A run passes when every call it makes gets the answer the run hopes for. This module says, step
by step, what that takes and what such a step leaves, for any client. The answers are given as
`Ends` of the client's operations, so a simulated chain meets them by its own lemmas.

What a passing step changes in the context is summed up once: its `Progress` (the phase, the
deployed contract, the tokens recorded and the baseline supply), with every outcome recorded so
far passed and carrying no error (`Context.Shows`). `StepM.Passes step s value client p` says that
`step`, run from `s`, returns `value` and leaves the client in `client` and a context that shows
`p`; `Passes.bind` chains two such steps.

The frame lemmas come first (`Context.Shows.record`, `Shows.transition`, …), then one lemma per
step of the workflows: the signers (`start_passes`), the chain check (`checkL3_passes`, with the
gates), the deployment (`deploy_passes`), the supply reads and check, the mints, the transfer and
the audit, and the metadata validation.
-/

set_option autoImplicit false

namespace NftProbe.Run

open StepM Contract

/-- What a run has settled in its context: its phase, its contract, the tokens it recorded and
the supply before minting. -/
structure Progress where
  phase : Phase
  contract : Option Address
  tokens : Table Nat TokenRecord
  baseline : Option Nat

namespace Context

/-- The context shows the progress `p`, and every outcome it recorded passed with no error. -/
structure Shows (c : Context) (p : Progress) : Prop where
  phase_eq : c.phase = p.phase
  contract_eq : c.deployment.map (·.contractAddress) = p.contract
  tokens_eq : c.tokens = p.tokens
  baseline_eq : c.baselineSupply = p.baseline
  passed : ∀ o ∈ c.outcomes, o.success = true ∧ o.error = none

variable {c : Context} {p : Progress}

/-- A fresh run shows its first phase, with nothing recorded. -/
theorem shows_create (runId startedAt : String) (workflow : Workflow) :
    (create runId startedAt workflow).Shows ⟨.idle, none, [], none⟩ :=
  ⟨rfl, rfl, rfl, rfl, fun _ ho => absurd ho List.not_mem_nil⟩

namespace Shows

theorem record (h : c.Shows p) {o : StepOutcome} (hsuccess : o.success = true)
    (herror : o.error = none) : (c.record o).Shows p where
  phase_eq := h.phase_eq
  contract_eq := h.contract_eq
  tokens_eq := h.tokens_eq
  baseline_eq := h.baseline_eq
  passed o' ho' := by
    rcases List.mem_append.1 ho' with ho' | ho'
    · exact h.passed o' ho'
    · rw [List.mem_singleton.1 ho']
      exact ⟨hsuccess, herror⟩

theorem addSnapshot (h : c.Shows p) (label : String) (snapshot : BlockSnapshot) :
    (c.addSnapshot label snapshot).Shows p :=
  ⟨h.phase_eq, h.contract_eq, h.tokens_eq, h.baseline_eq, h.passed⟩

/-- A phase change the table allows moves the progress to that phase. -/
theorem transition (h : c.Shows p) {next : Phase} (hcan : p.phase.canTransition next = true) :
    ∃ d, c.transition next = .ok d ∧ d.Shows { p with phase := next } := by
  refine ⟨_, by rw [Context.transition, h.phase_eq, if_pos hcan], ?_⟩
  exact ⟨rfl, h.contract_eq, h.tokens_eq, h.baseline_eq, h.passed⟩

/-- The first deployment of a run settles its contract. -/
theorem setDeployment (h : c.Shows p) (hnone : p.contract = none) (result : DeploymentResult) :
    c.setDeployment result = .ok { c with deployment := some result } ∧
      ({ c with deployment := some result } : Context).Shows
        { p with contract := some result.contractAddress } := by
  have hdeployment : c.deployment = none := by
    simpa [hnone] using h.contract_eq
  exact ⟨by rw [Context.setDeployment, hdeployment],
    ⟨h.phase_eq, rfl, h.tokens_eq, h.baseline_eq, h.passed⟩⟩

/-- Once a contract is settled, the run reads it. -/
theorem contract_eq_ok (h : c.Shows p) {address : Address} (hcontract : p.contract = some address) :
    c.contract = .ok address := by
  have hmap := h.contract_eq
  rw [hcontract] at hmap
  obtain ⟨d, hd, rfl⟩ := Option.map_eq_some_iff.1 hmap
  rw [Context.contract, hd]

theorem setBaselineSupply (h : c.Shows p) (supply : Nat) :
    (c.setBaselineSupply supply).Shows { p with baseline := some supply } :=
  ⟨h.phase_eq, h.contract_eq, h.tokens_eq, rfl, h.passed⟩

theorem addToken (h : c.Shows p) (record : TokenRecord) :
    (c.addToken record).Shows { p with tokens := p.tokens.insert record.tokenId record } := by
  refine ⟨h.phase_eq, h.contract_eq, ?_, h.baseline_eq, h.passed⟩
  rw [Context.addToken, h.tokens_eq]

theorem setOwner (h : c.Shows p) {tokenId : Nat} {owner : Address} {tokens : Table Nat TokenRecord}
    (htokens : (c.setOwner tokenId owner).tokens = tokens) :
    (c.setOwner tokenId owner).Shows { p with tokens } :=
  ⟨h.phase_eq, h.contract_eq, htokens, h.baseline_eq, h.passed⟩

end Shows

end Context

namespace StepM

variable {σ α β : Type}

/-- Run from `s`, the step returns `value` and leaves the client in state `client` and a context
that shows `p`. -/
def Passes (step : StepM σ α) (s : Session σ) (value : α) (client : σ) (p : Progress) : Prop :=
  Returns step s fun a s' => a = value ∧ s'.client = client ∧ s'.context.Shows p

variable {s : Session σ} {a : σ} {context : Context} {p p' : Progress} {client client' : σ}

/-- A passing step followed by a computation that returns from the client it left and any
context that shows its progress. -/
theorem Passes.bind {m : StepM σ α} {f : α → StepM σ β} {x : α} {post : β → Session σ → Prop}
    (h : Passes m s x client p)
    (hf : ∀ context, context.Shows p → Returns (f x) ⟨client, context⟩ post) :
    Returns (m >>= f) s post := by
  refine Returns.bind h ?_
  rintro x' ⟨client₁, context⟩ ⟨rfl, hclient, hshows⟩
  dsimp only at hclient hshows
  subst hclient
  exact hf context hshows

theorem passes_pure (x : α) (hs : context.Shows p) : Passes (pure x) ⟨a, context⟩ x a p :=
  returns_pure ⟨rfl, rfl, hs⟩

theorem Passes.map {m : StepM σ α} {x : α} {f : α → β} (h : Passes m s x client p) :
    Passes (f <$> m) s (f x) client p :=
  returns_map (h.mono fun _ _ ⟨hx, hclient, hshows⟩ => ⟨by rw [hx], hclient, hshows⟩)

/-- A step that passes is tolerated with its value. -/
theorem Passes.tolerate {m : StepM σ α} {x : α} (h : Passes m s x client p) :
    Passes (StepM.tolerate m) s (some x) client p :=
  returns_tolerate (h.mono fun _ _ ⟨hx, hclient, hshows⟩ => ⟨by rw [hx], hclient, hshows⟩)

/-- A step that passes never reaches its handler. -/
theorem Passes.tryCatch {m : StepM σ α} {x : α} {handler : HarnessError → StepM σ α}
    (h : Passes m s x client p) : Passes (tryCatch m handler) s x client p :=
  returns_tryCatch h

/-- A client call returns the client's answer, with the client where the call left it. -/
theorem returns_call_ends {op : ClientM σ α} {r : Except ClientError α}
    {post : Except ClientError α → Session σ → Prop} (hop : Ends op s.client r client)
    (h : post r { s with client := client }) : Returns (call op) s post := by
  intro log
  obtain ⟨log', hrun⟩ := hop log
  refine ⟨r, { s with client := client }, log', ?_, h⟩
  have hexec := exec_call op s log
  simp only [ClientM.runFrom, exec] at hexec
  rw [hexec]
  simp only [StateT.run] at hrun ⊢
  rw [hrun]

/-- A phase change the table allows passes, into that phase. -/
theorem transition_passes {next : Phase} (hs : context.Shows p)
    (hcan : p.phase.canTransition next = true) :
    Passes (transition next) ⟨a, context⟩ () a { p with phase := next } := by
  obtain ⟨moved, hmove, hmoved⟩ := hs.transition hcan
  exact returns_transition hmove ⟨rfl, rfl, hmoved⟩

theorem emit_passes {level : Level} {message : String} (hs : context.Shows p) :
    Passes (liftM (emit level message) : StepM σ Unit) ⟨a, context⟩ () a p :=
  returns_emit ⟨rfl, rfl, hs⟩

end StepM

/-! ### The chain check -/

/-- `verifyChain` returns from every log. It finds no error when the node and a readable view of
the contract report the expected chain id, and only adds details to the outcome. -/
theorem verifyChain_passes {snapshot : BlockSnapshot} {view : Option (Except HarnessError L3View)}
    {expected : Nat} {outcome : StepOutcome} (hchain : snapshot.chainId = expected)
    (hview : ∀ v, view = some (.ok v) → v.chainId = expected) (log : Array LogRecord) :
    ∃ outcome' log', (verifyChain snapshot view expected outcome).run log =
        .ok ((outcome', none), log') ∧
      outcome'.success = outcome.success ∧ outcome'.error = outcome.error := by
  have hreturns : ∃ result log',
      (verifyChain snapshot view expected outcome).run log = .ok (result, log') := by
    unfold verifyChain
    rcases view with _ | _ | v <;> dsimp only <;> split_ifs <;> exact ⟨_, _, rfl⟩
  obtain ⟨⟨outcome', verdict⟩, log', hrun⟩ := hreturns
  obtain ⟨-, hsuccess, herror, hverdict⟩ := verifyChain_run hrun
  obtain rfl : verdict = none := hverdict.2 ⟨hchain, hview⟩
  exact ⟨outcome', log', hrun, hsuccess, herror⟩

/-- A gas limit at or above the floor passes. -/
theorem checkGasFloor_passes {step : String} {snapshot : BlockSnapshot} {minimum : Nat}
    (hfloor : minimum ≤ snapshot.gasLimit) (log : Array LogRecord) :
    ∃ o, (checkGasFloor step snapshot minimum).run log = .ok (o, log) ∧
      o.success = true ∧ o.error = none := by
  unfold checkGasFloor
  rw [if_pos hfloor]
  exact ⟨_, rfl, rfl, rfl⟩

/-! ### The metadata -/

/-- The metadata a contract reports agrees with what the run expects, and its supply with
`supply`, when the run knows what to expect of it. -/
structure MetadataAgrees (info : ContractInfo) (expectations : Expectations)
    (supply : Option Nat) : Prop where
  name : info.name = expectations.name
  symbol : info.symbol = expectations.symbol
  version : info.version = expectations.version
  chainName : info.chainName = expectations.chainName
  chainId : info.chainId = expectations.chainId
  totalSupply : ∀ n, supply = some n → info.totalSupply = n

/-- A field that agrees passes. -/
theorem compareField_passes (field : String) {expected observed : String}
    (h : expected = observed)
    (log : Array LogRecord) :
    ∃ o, (compareField field expected observed).run log = .ok (o, log) ∧
      o.success = true ∧ o.error = none := by
  unfold compareField
  rw [if_pos h]
  exact ⟨_, rfl, rfl, rfl⟩

namespace StepM

variable {σ : Type} {c : Client σ} {s : Session σ} {a : σ} {context : Context} {p : Progress}

/-- The chain reads of a check, when the node reports its latest block and a deployed contract
answers with a view that, read at all, shows the expected chain id. -/
theorem readViews_returns {contract : Option Address} {snapshot : BlockSnapshot} {expected : Nat}
    (hsnapshot : Ends c.snapshot s.client (.ok snapshot) s.client)
    (hview : ∀ address, contract = some address → ∃ tokens,
      Ends (c.read address validateL3Chain) s.client (.ok tokens) s.client ∧
        ∀ view, L3View.ofTokens tokens = .ok view → view.chainId = expected) :
    Returns (readViews c contract) s fun r s' => s' = s ∧ r.1 = .ok snapshot ∧
      ∀ view, r.2 = some (.ok view) → view.chainId = expected := by
  cases contract with
  | none =>
    refine returns_bind (returns_call_ends hsnapshot (returns_pure ⟨rfl, rfl, ?_⟩))
    intro view hview
    cases hview
  | some address =>
    obtain ⟨tokens, hread, hchain⟩ := hview address rfl
    refine returns_bind (returns_call_ends hsnapshot
      (returns_bind (returns_call_ends hread (returns_pure ⟨rfl, rfl, ?_⟩))))
    intro view hview
    cases hdecoded : L3View.ofTokens tokens with
    | error error => simp [hdecoded, Except.mapError] at hview
    | ok decoded =>
      simp only [hdecoded, Except.mapError, Option.some.injEq, Except.ok.injEq] at hview
      subst hview
      exact hchain decoded hdecoded

/-- The answers a chain check needs from the client in state `a` to pass: the node reports
`snapshot`, with the expected chain id and a gas limit at the expected floor, and a deployed
contract's view shows the expected chain id or cannot be read. -/
structure ChainAnswers (c : Client σ) (a : σ) (expectations : Expectations)
    (contract : Option Address) (snapshot : BlockSnapshot) : Prop where
  latest : Ends c.snapshot a (.ok snapshot) a
  chainId : snapshot.chainId = expectations.chainId
  view : ∀ address, contract = some address → ∃ tokens,
    Ends (c.read address validateL3Chain) a (.ok tokens) a ∧
      ∀ view, L3View.ofTokens tokens = .ok view → view.chainId = expectations.chainId
  floor : ∀ minimum, expectations.minGasLimit = some minimum → minimum ≤ snapshot.gasLimit

/-- A chain check passes, returning the latest block, on the answers it needs. -/
theorem checkL3_passes {expectations : Expectations} {label : String} {snapshot : BlockSnapshot}
    (hs : context.Shows p) (h : ChainAnswers c a expectations p.contract snapshot) :
    Passes (checkL3 c expectations label) ⟨a, context⟩ snapshot a p := by
  have hchain := h.chainId
  have hfloor := h.floor
  unfold checkL3
  dsimp only
  refine returns_bind (returns_context ?_)
  rw [hs.contract_eq]
  refine Returns.bind (readViews_returns h.latest h.view) ?_
  rintro ⟨snapshot', view⟩ s' ⟨rfl, hsnapshot', hview'⟩
  dsimp only at hsnapshot' hview'
  subst hsnapshot'
  refine returns_bind (returns_pure (returns_bind (returns_context ?_)))
  split
  refine returns_bind (returns_emit ?_)
  all_goals
    refine returns_bind (returns_pure (returns_bind (returns_modifyContext
      (returns_bind (returns_liftM fun log => ?_)))))
    obtain ⟨outcome, log', hrun, hsuccess, herror⟩ := verifyChain_passes hchain hview' log
    refine ⟨_, _, hrun, ?_⟩
    have hshows := (hs.addSnapshot label snapshot).record (o := outcome)
      (by rw [hsuccess]; simp) (by rw [herror]; simp)
    refine returns_bind (returns_emit (returns_bind (returns_record ?_)))
    split
    · rename_i minimum hminimum
      refine returns_bind (returns_liftM fun log => ?_)
      obtain ⟨o, hgas, hsuccess, herror⟩ := checkGasFloor_passes (hfloor minimum hminimum) log
      exact ⟨_, _, hgas, returns_bind (returns_record
        (returns_pure ⟨rfl, rfl, hshows.record hsuccess herror⟩))⟩
    · exact returns_pure ⟨rfl, rfl, hshows⟩


/-! ### The deployment -/

/-- A deployment passes when the client creates the contract from the deployer and the creation
is included with success and names a contract address other than zero. The deployer's balance is
only recorded: its read may fail. -/
theorem deploy_passes {artifact : Artifact} {deployer admin : Address}
    {balance : Except ClientError Word} {deployment : Deployment} {receipt : Receipt}
    {address : Address} {client : σ} (hs : context.Shows p)
    (hmutable : p.phase.allowsMutations = true) (hnone : p.contract = none)
    (hbalance : Ends (c.balance deployer) a balance a)
    (hdeploy : Ends (c.deploy deployer artifact.bytecode (constructorArgs admin)) a
      (.ok deployment) client)
    (hreceipt : successfulReceipt deployment.outcome = .ok receipt)
    (haddress : deployment.createdAddress = some address) :
    Passes (deploy c artifact deployer admin) ⟨a, context⟩
      { contractAddress := address, deployerAddress := deployer, adminAddress := admin,
        txHash := receipt.txHash, blockNumber := receipt.blockNumber, gasUsed := receipt.gasUsed }
      client { p with contract := some address } := by
  unfold deploy tryDeploy
  refine returns_tryCatch (returns_bind ?_)
  refine returns_bind (returns_ensureMutable (by rw [hs.phase_eq]; exact hmutable) ?_)
  refine returns_bind (returns_emit (returns_bind (returns_call_ends hbalance ?_)))
  cases balance
  all_goals
    refine returns_bind (returns_emit (returns_bind (returns_pure ?_)))
    refine returns_bind (returns_call_ends hdeploy ?_)
    refine returns_bind (returns_pure ?_)
    dsimp only
    rw [hreceipt]
    refine returns_bind (returns_fromResult ?_)
    rw [haddress]
    dsimp only
    refine returns_bind (returns_context ?_)
    obtain ⟨hset, hshows⟩ := hs.setDeployment hnone
      { contractAddress := address, deployerAddress := deployer, adminAddress := admin,
        txHash := receipt.txHash, blockNumber := receipt.blockNumber, gasUsed := receipt.gasUsed }
    rw [hset]
    refine returns_bind (returns_fromResult (returns_bind (returns_modifyContext
      (returns_bind (returns_emit (returns_pure ?_))))))
    exact returns_bind (returns_record (returns_pure ⟨rfl, rfl, hshows.record (by simp) (by simp)⟩))



/-! ### Reads and transactions -/

/-- The contract at `address` answers the read `query` from the client in state `a`, leaving it
there, with one value that `convert` reads as `value`. -/
def ReadsBack {γ : Type} (c : Client σ) (a : σ) (address : Address) (query : Abi.Call)
    (convert : Abi.Token → Except Abi.AbiError γ) (value : γ) : Prop :=
  ∃ tokens, Ends (c.read address query) a (.ok tokens) a ∧ (single tokens >>= convert) = .ok value

/-- The client in state `a` includes the transaction of `call` from `source` to the contract at
`address` with success, leaving it in state `a'` with a receipt that satisfies `P`. -/
def Includes (c : Client σ) (a : σ) (source address : Address) (call : Abi.Call) (a' : σ)
    (P : Receipt → Prop) : Prop :=
  ∃ outcome receipt, Ends (c.send source address call) a (.ok outcome) a' ∧
    successfulReceipt outcome = .ok receipt ∧ P receipt

/-- The mint events a receipt reports for the contract at `address` check against `recipients`,
giving the token ids `ids`. -/
def MintsChecked (address : Address) (recipients : List Address) (ids : List Nat)
    (receipt : Receipt) : Prop :=
  ∃ events, TransferEvent.collect receipt address = .ok events ∧
    (verifyMinted (events.filter TransferEvent.isMint) recipients).run = .ok (.ok ids)

theorem readSingle_passes {γ : Type} {address : Address} {query : Abi.Call}
    {convert : Abi.Token → Except Abi.AbiError γ} {value : γ} (hs : context.Shows p)
    (h : ReadsBack c a address query convert value) :
    Passes (readSingle c address query convert) ⟨a, context⟩ (.ok value) a p := by
  obtain ⟨tokens, hread, hvalue⟩ := h
  refine returns_bind (returns_call_ends hread (returns_pure ⟨?_, rfl, hs⟩))
  rw [hvalue]
  rfl

/-! ### The supply and the mints -/

section Mints

variable {address : Address}

theorem checking_passes {γ : Type} {check : ExceptT HarnessError (Except Overflow) γ} {x : γ}
    (hs : context.Shows p) (h : check.run = .ok (.ok x)) :
    Passes (checking check) ⟨a, context⟩ x a p :=
  returns_bind (returns_checked h (returns_fromResult ⟨rfl, rfl, hs⟩))

/-- The supply read passes when the contract answers one integer that fits 64 bits. -/
theorem readTotalSupply_passes {supply : Nat} (hs : context.Shows p)
    (hcontract : p.contract = some address)
    (h : ReadsBack c a address totalSupply Abi.Token.asU64 supply) :
    Passes (readTotalSupply c) ⟨a, context⟩ supply a p := by
  obtain ⟨tokens, hread, hsupply⟩ := h
  unfold readTotalSupply
  refine returns_bind (returns_contract (hs.contract_eq_ok hcontract) ?_)
  refine returns_bind (returns_call_ends hread (returns_bind (returns_pure ?_)))
  dsimp only
  rw [hsupply]
  exact returns_fromResult ⟨rfl, rfl, hs⟩

/-- The baseline read passes on the supply read, and settles the baseline. -/
theorem readBaselineSupply_passes {supply : Nat} (hs : context.Shows p)
    (hcontract : p.contract = some address)
    (h : ReadsBack c a address totalSupply Abi.Token.asU64 supply) :
    Passes (readBaselineSupply c) ⟨a, context⟩ supply a { p with baseline := some supply } := by
  unfold readBaselineSupply
  refine Passes.tryCatch ((readTotalSupply_passes hs hcontract h).bind fun context₁ hs₁ => ?_)
  exact returns_bind (returns_modifyContext (returns_bind (returns_record
    (returns_pure ⟨rfl, rfl, (hs₁.setBaselineSupply supply).record rfl rfl⟩))))

/-- The supply check passes when the contract reports the baseline plus the tokens recorded, a
sum that fits 64 bits. -/
theorem checkSupply_passes {baseline : Nat} (hs : context.Shows p)
    (hcontract : p.contract = some address) (hbaseline : p.baseline = some baseline)
    (hfits : baseline + p.tokens.length ≤ u64Max)
    (h : ReadsBack c a address totalSupply Abi.Token.asU64 (baseline + p.tokens.length)) :
    Passes (checkSupply c) ⟨a, context⟩ (some (baseline + p.tokens.length)) a p := by
  have hexpected : context.expectedSupply = .ok (some (baseline + p.tokens.length)) := by
    simp [Context.expectedSupply, hs.baseline_eq, hbaseline, Context.tokenCount, hs.tokens_eq,
      U64.checkedAdd, hfits, Except.map]
  unfold checkSupply
  refine returns_bind (returns_context (returns_bind (returns_checked hexpected ?_)))
  refine Passes.tryCatch ((readTotalSupply_passes hs hcontract h).bind fun context₁ hs₁ => ?_)
  simp only [ne_eq, not_true_eq_false, if_false]
  exact returns_bind (returns_emit (returns_bind (returns_context
    (returns_bind (returns_record (returns_pure ⟨rfl, rfl, hs₁.record rfl rfl⟩))))))

/-- A mint is submitted and its receipt read when the run may change the chain, the client
includes the transaction with success, and its logs read as transfers. -/
theorem submitMint_passes {minter : Address} {mint : Abi.Call} {receipt : Receipt}
    {events : List TransferEvent} {client : σ} (hs : context.Shows p)
    (hmutable : p.phase.allowsMutations = true) (hcontract : p.contract = some address)
    (hsend : Includes c a minter address mint client (· = receipt))
    (hevents : TransferEvent.collect receipt address = .ok events) :
    Passes (submitMint c minter mint) ⟨a, context⟩ (receipt, events.filter TransferEvent.isMint)
      client p := by
  obtain ⟨outcome, _, hsend, hreceipt, rfl⟩ := hsend
  unfold submitMint
  refine returns_bind (returns_ensureMutable (by rw [hs.phase_eq]; exact hmutable) ?_)
  refine returns_bind (returns_contract (hs.contract_eq_ok hcontract) ?_)
  refine returns_bind (returns_emit (returns_bind (returns_call_ends hsend ?_)))
  refine returns_bind (returns_pure ?_)
  dsimp only
  rw [hreceipt]
  refine returns_bind (returns_fromResult ?_)
  rw [hevents]
  exact returns_bind (returns_fromResult (returns_pure ⟨rfl, rfl, hs⟩))

/-- A single mint passes when the client includes it and its mint events check against the
recipient, giving one token id; the token is recorded to the recipient. -/
theorem mintOne_passes {minter recipient : Address} {uri : String} {tokenId : Nat} {client : σ}
    (hs : context.Shows p) (hmutable : p.phase.allowsMutations = true)
    (hcontract : p.contract = some address)
    (h : Includes c a minter address (safeMint recipient uri) client
      (MintsChecked address [recipient] [tokenId])) :
    Passes (mintOne c minter recipient uri) ⟨a, context⟩ tokenId client
      { p with tokens := p.tokens.insert tokenId { tokenId, owner := recipient, uri } } := by
  obtain ⟨outcome, receipt, hsend, hreceipt, events, hevents, hverify⟩ := h
  unfold mintOne
  refine Passes.tryCatch ((submitMint_passes hs hmutable hcontract
    ⟨outcome, receipt, hsend, hreceipt, rfl⟩ hevents).bind fun context₁ hs₁ => ?_)
  refine (checking_passes hs₁ hverify).bind fun context₂ hs₂ => ?_
  exact returns_bind (returns_modifyContext (returns_bind (returns_emit (returns_bind
    (returns_record (returns_pure ⟨rfl, rfl, (hs₂.addToken _).record rfl rfl⟩))))))

/-- A batch mint passes when its lists have one URI per recipient and at least one, the client
includes it, and its mint events check against the recipients; the tokens are recorded to their
recipients in order. -/
theorem mintBatch_passes {minter : Address} {recipients : List Address} {uris : List String}
    {ids : List Nat} {client : σ} (hs : context.Shows p) (hmutable : p.phase.allowsMutations = true)
    (hcontract : p.contract = some address) (hlength : recipients.length = uris.length)
    (hnonempty : recipients ≠ [])
    (h : Includes c a minter address (batchMint recipients uris) client
      (MintsChecked address recipients ids)) :
    Passes (mintBatch c minter recipients uris) ⟨a, context⟩ ids client
      { p with tokens := recordBatch p.tokens ids recipients uris } := by
  obtain ⟨outcome, receipt, hsend, hreceipt, events, hevents, hverify⟩ := h
  have hargs : checkBatchArguments recipients uris = .ok () := by
    rw [checkBatchArguments, if_neg (by simpa using hlength),
      if_neg (by simpa using hnonempty)]
  unfold mintBatch
  refine Passes.tryCatch ?_
  rw [hargs]
  refine returns_bind (returns_fromResult ?_)
  refine (submitMint_passes hs hmutable hcontract ⟨outcome, receipt, hsend, hreceipt, rfl⟩
    hevents).bind fun context₁ hs₁ => ?_
  refine (checking_passes hs₁ hverify).bind fun context₂ hs₂ => ?_
  let step := fun (tokens : Table Nat TokenRecord) (entry : (Nat × Address) × String) =>
    tokens.insert entry.1.1 { tokenId := entry.1.1, owner := entry.1.2, uri := entry.2 }
  refine Returns.bind (returns_forIn (fun pre _ s' => s'.client = client ∧
      s'.context.Shows { p with tokens := pre.foldl step p.tokens }) ?_ ⟨rfl, hs₂⟩) ?_
  · rintro pre ⟨⟨tokenId, owner⟩, uri⟩ rest - s' - ⟨hclient, hshows⟩
    refine returns_bind (returns_modifyContext (returns_pure ⟨_, rfl, hclient, ?_⟩))
    have hstep := hshows.addToken { tokenId, owner, uri }
    rwa [List.foldl_append]
  · rintro - s' ⟨hclient, hshows⟩
    exact returns_bind (returns_emit (returns_bind (returns_record
      (returns_pure ⟨rfl, hclient, hshows.record rfl rfl⟩))))

end Mints

/-! ### The transfer and the audit -/

section Transfers

variable {address : Address}

/-- A transfer passes when the run may change the chain and recorded the token, the client
includes the transfer from the recorded owner, and the contract then reports the recipient as
the owner. The record follows the token to the recipient. -/
theorem transferToken_passes {tokenId : Nat} {sender recipient : Address} {record : TokenRecord}
    {recorded : Table Nat TokenRecord} {client : σ} (hs : context.Shows p)
    (hmutable : p.phase.allowsMutations = true) (hcontract : p.contract = some address)
    (hrecord : p.tokens.get? tokenId = some record)
    (hsend : Includes c a sender address (transferFrom record.owner recipient tokenId) client
      fun _ => True)
    (hread : ReadsBack c client address (ownerOf tokenId) Abi.Token.asAddress recipient)
    (hrecorded : ∀ c : Context, c.tokens = p.tokens →
      (c.setOwner tokenId recipient).tokens = recorded) :
    Passes (transferToken c tokenId sender recipient) ⟨a, context⟩ () client
      { p with tokens := recorded } := by
  obtain ⟨outcome, receipt, hsend, hreceipt, -⟩ := hsend
  have htoken : context.token? tokenId = some record := by
    rw [Context.token?, hs.tokens_eq, hrecord]
  unfold transferToken tryTransfer
  refine returns_tryCatch (returns_bind ?_)
  refine returns_bind (returns_ensureMutable (by rw [hs.phase_eq]; exact hmutable) ?_)
  refine returns_bind (returns_contract (hs.contract_eq_ok hcontract) ?_)
  refine returns_bind (returns_context ?_)
  dsimp only
  rw [htoken]
  refine returns_bind (returns_emit (returns_bind (returns_call_ends hsend ?_)))
  refine returns_bind (returns_pure ?_)
  dsimp only
  rw [hreceipt]
  refine returns_bind (returns_fromResult ?_)
  refine (readSingle_passes hs hread).bind fun context₁ hs₁ => ?_
  refine returns_bind (returns_pure ?_)
  rw [if_neg (fun h => h rfl)]
  refine returns_bind (returns_emit (returns_pure ?_))
  refine returns_bind (returns_modifyContext (returns_record ⟨rfl, rfl, ?_⟩))
  exact (hs₁.setOwner (hrecorded _ hs₁.tokens_eq)).record rfl rfl

/-- The audit finds nothing and passes when the contract reports, for every recorded token, the
recorded owner and metadata. -/
theorem auditTokens_passes (hs : context.Shows p) (hcontract : p.contract = some address)
    (hrecords : ∀ record ∈ p.tokens.values,
      ReadsBack c a address (ownerOf record.tokenId) Abi.Token.asAddress record.owner ∧
      ReadsBack c a address (tokenUri record.tokenId) Abi.Token.asString record.uri) :
    Passes (auditTokens c) ⟨a, context⟩ 0 a p := by
  unfold auditTokens
  refine returns_bind (returns_context ?_)
  rw [hs.contract_eq_ok hcontract]
  refine returns_bind (returns_context ?_)
  rw [Context.tokenRecords, hs.tokens_eq]
  refine Returns.bind (returns_forIn (fun _ mismatches s' => mismatches = [] ∧
      s'.client = a ∧ s'.context.Shows p) ?_ ⟨rfl, rfl, hs⟩) ?_
  · rintro pre record rest b ⟨a', context'⟩ hxs ⟨rfl, ha', hs'⟩
    dsimp only at ha' hs'
    subst ha'
    have hmem : record ∈ p.tokens.values := by rw [hxs]; simp
    obtain ⟨howner, huri⟩ := hrecords record hmem
    refine (readSingle_passes hs' howner).bind fun context₁ hs₁ => ?_
    refine (readSingle_passes hs₁ huri).bind fun context₂ hs₂ => ?_
    refine returns_bind (returns_emit (returns_pure ⟨_, rfl, ?_, rfl, hs₂⟩))
    simp [auditRecord]
  · rintro mismatches ⟨a', context'⟩ ⟨rfl, ha', hs'⟩
    dsimp only at ha' hs'
    subst ha'
    exact returns_bind (returns_emit (returns_bind (returns_record
      (returns_pure ⟨rfl, rfl, hs'.record rfl rfl⟩))))

end Transfers


section Metadata

variable {address : Address}

/-- The metadata read passes when the contract answers six values that read as metadata. -/
theorem readInfo_passes {tokens : List Abi.Token} {info : ContractInfo} (hs : context.Shows p)
    (hcontract : p.contract = some address)
    (hread : Ends (c.read address getContractInfo) a (.ok tokens) a)
    (hinfo : ContractInfo.ofTokens tokens = .ok info) :
    Passes (readInfo c) ⟨a, context⟩ info a p := by
  unfold readInfo
  refine returns_bind (returns_contract (hs.contract_eq_ok hcontract) ?_)
  refine returns_bind (returns_call_ends hread ?_)
  dsimp only
  rw [hinfo]
  exact returns_fromResult ⟨rfl, rfl, hs⟩

/-- The validation passes when the contract's metadata reads and agrees with the expectations,
its supply with the baseline plus the tokens recorded once the baseline is known; that sum fits
64 bits. -/
theorem validateMetadata_passes {expectations : Expectations} {tokens : List Abi.Token}
    {info : ContractInfo} (hs : context.Shows p) (hcontract : p.contract = some address)
    (hread : Ends (c.read address getContractInfo) a (.ok tokens) a)
    (hinfo : ContractInfo.ofTokens tokens = .ok info)
    (hfits : ∀ baseline, p.baseline = some baseline → baseline + p.tokens.length ≤ u64Max)
    (hagrees : MetadataAgrees info expectations (p.baseline.map (· + p.tokens.length))) :
    Passes (validateMetadata c expectations) ⟨a, context⟩ info a p := by
  have hexpected : ∀ c : Context, c.Shows p →
      c.expectedSupply = .ok (p.baseline.map (· + p.tokens.length)) := by
    intro c hc
    rw [Context.expectedSupply, hc.baseline_eq, Context.tokenCount, hc.tokens_eq]
    cases hbaseline : p.baseline with
    | none => rfl
    | some baseline => simp [U64.checkedAdd, hfits baseline hbaseline, Except.map]
  unfold validateMetadata
  refine (readInfo_passes hs hcontract hread hinfo).tryCatch.bind fun context₁ hs₁ => ?_
  refine returns_bind (returns_emit (returns_bind (returns_emit (returns_bind (returns_emit
    (returns_bind (returns_emit (returns_bind (returns_emit (returns_bind (returns_emit
    (returns_bind (returns_emit ?_)))))))))))))
  dsimp only
  refine returns_bind (returns_context (returns_bind (returns_checked (hexpected _ hs₁) ?_)))
  refine Returns.bind (returns_forIn (fun _ _ s' => s'.client = a ∧ s'.context.Shows p) ?_
    ⟨rfl, hs₁⟩) ?_
  · rintro pre x rest - ⟨a', context'⟩ hxs ⟨ha', hs'⟩
    dsimp only at ha' hs'
    subst ha'
    have hmem : x ∈ pre ++ x :: rest := List.mem_append_right pre List.mem_cons_self
    rw [← hxs] at hmem
    have hx : x.2.1 = x.2.2 := by
      rcases List.mem_append.1 hmem with hmem | hmem
      · simp only [List.mem_cons, List.not_mem_nil, or_false] at hmem
        rcases hmem with rfl | rfl | rfl | rfl | rfl
        · exact hagrees.name.symm
        · exact hagrees.symbol.symm
        · exact hagrees.version.symm
        · exact hagrees.chainName.symm
        · exact congrArg toString hagrees.chainId.symm
      · split at hmem
        · rename_i expected hsome
          rw [List.mem_singleton.1 hmem]
          exact congrArg toString (hagrees.totalSupply expected hsome).symm
        · exact absurd hmem List.not_mem_nil
    refine returns_bind (returns_liftM fun log => ?_)
    obtain ⟨o, hrun, hsuccess, herror⟩ := compareField_passes x.1 hx log
    exact ⟨o, log, hrun, returns_bind (returns_record
      (returns_pure ⟨_, rfl, rfl, hs'.record hsuccess herror⟩))⟩
  · rintro - s' ⟨hclient, hshows⟩
    exact returns_pure ⟨rfl, hclient, hshows⟩

end Metadata

end StepM

namespace Orchestrator

variable {σ : Type} (o : Orchestrator σ) {a : σ} {context : Context} {p : Progress}

/-- The run enters its deploying phase and lists the signers, when the client offers at least
as many as the workflow needs. -/
theorem start_passes {needed : Nat} {signers : List Address} (hs : context.Shows p)
    (hidle : p.phase = .idle) (hsigners : Ends o.client.signers a (.ok signers) a)
    (hneeded : needed ≤ signers.length) :
    Passes (o.start needed) ⟨a, context⟩ signers a { p with phase := .deploying } := by
  unfold start
  refine (transition_passes hs (by rw [hidle]; rfl)).bind fun context hshows => ?_
  refine returns_bind (returns_call_ends hsigners ?_)
  simp only [if_neg (Nat.not_lt.2 hneeded)]
  exact returns_bind (returns_pure (returns_fromResult ⟨rfl, rfl, hshows⟩))

theorem signerAt_passes {signers : List Address} {index : Nat} {signer : Address}
    (hs : context.Shows p) (h : signers[index]? = some signer) :
    Passes (signerAt signers index : StepM σ Address) ⟨a, context⟩ signer a p := by
  unfold signerAt
  rw [h]
  exact passes_pure signer hs

/-- A gate passes on the answers its chain check needs. -/
theorem gate_passes {label : String} {snapshot : BlockSnapshot} (hs : context.Shows p)
    (h : ChainAnswers o.client a o.expectations p.contract snapshot) :
    Passes (o.gate label) ⟨a, context⟩ () a p :=
  (checkL3_passes hs h).map.tryCatch

/-- The deployment between its two gates passes, and verifies the chain, when the node answers
both checks, the client creates the contract, and the contract's view after the creation shows
the expected chain. -/
theorem deployAndVerify_passes {artifact : Artifact} {deployer address : Address}
    {snapshot snapshot' : BlockSnapshot} {balance : Except ClientError Word}
    {deployment : Deployment} {receipt : Receipt} {client : σ} (hs : context.Shows p)
    (hphase : p.phase = .deploying) (hnone : p.contract = none)
    (hpre : ChainAnswers o.client a o.expectations none snapshot)
    (hbalance : Ends (o.client.balance deployer) a balance a)
    (hdeploy : Ends (o.client.deploy deployer artifact.bytecode (constructorArgs deployer))
      a (.ok deployment) client)
    (hreceipt : successfulReceipt deployment.outcome = .ok receipt)
    (haddress : deployment.createdAddress = some address)
    (hpost : ChainAnswers o.client client o.expectations (some address) snapshot') :
    Passes (o.deployAndVerify artifact deployer) ⟨a, context⟩ () client
      { p with phase := .chainVerified, contract := some address } := by
  unfold deployAndVerify
  refine (o.gate_passes hs (hnone ▸ hpre)).bind fun context₁ hs₁ => ?_
  refine (emit_passes hs₁).bind fun context₂ hs₂ => ?_
  refine (deploy_passes hs₂ (by rw [hphase]; rfl) hnone hbalance hdeploy hreceipt haddress).map.bind
    fun context₃ hs₃ => ?_
  refine (o.gate_passes hs₃ hpost).bind fun context₄ hs₄ => ?_
  exact transition_passes hs₄ (by rw [hphase]; rfl)


/-- The mint phase passes when the contract reports the supply before minting, the client
includes both mints and their events check against their recipients, and the contract then
reports the supply grown by the tokens recorded. -/
theorem mintPhase_passes {deployer user1 user2 address : Address} {supply tokenId : Nat}
    {ids : List Nat} {recorded : Table Nat TokenRecord} {a₁ a₂ : σ} (hs : context.Shows p)
    (hphase : p.phase = .chainVerified) (hcontract : p.contract = some address)
    (hbaseline : ReadsBack o.client a address totalSupply Abi.Token.asU64 supply)
    (hsingle : Includes o.client a deployer address (safeMint user1 o.demoMints.singleUri) a₁
      (MintsChecked address [user1] [tokenId]))
    (hbatchUris : o.demoMints.batchUris.length = 3)
    (hbatch : Includes o.client a₁ deployer address
      (batchMint [user1, user2, deployer] o.demoMints.batchUris) a₂
      (MintsChecked address [user1, user2, deployer] ids))
    (hrecorded : recordBatch (p.tokens.insert tokenId ⟨tokenId, user1, o.demoMints.singleUri⟩) ids
      [user1, user2, deployer] o.demoMints.batchUris = recorded)
    (hfits : supply + recorded.length ≤ u64Max)
    (hsupply : ReadsBack o.client a₂ address totalSupply Abi.Token.asU64
      (supply + recorded.length)) :
    Passes (o.mintPhase deployer user1 user2) ⟨a, context⟩ (some tokenId) a₂
      { p with phase := .minting, baseline := some supply, tokens := recorded } := by
  subst hrecorded
  unfold mintPhase
  refine (transition_passes hs (by rw [hphase]; rfl)).bind fun context₁ hs₁ => ?_
  refine (emit_passes hs₁).bind fun context₂ hs₂ => ?_
  refine (readBaselineSupply_passes hs₂ hcontract hbaseline).tolerate.map.bind
    fun context₃ hs₃ => ?_
  refine (mintOne_passes hs₃ rfl hcontract hsingle).tolerate.bind fun context₄ hs₄ => ?_
  refine (mintBatch_passes hs₄ rfl hcontract (by simp [hbatchUris]) (List.cons_ne_nil _ _)
    hbatch).tolerate.map.bind fun context₅ hs₅ => ?_
  refine (checkSupply_passes hs₅ hcontract rfl hfits hsupply).tolerate.map.bind
    fun context₆ hs₆ => ?_
  exact passes_pure _ hs₆

/-- The transfer phase passes when the client includes the transfer of the single token from its
recorded owner, the contract then reports the new owner, and it reports every record, as the
transfer left them, back to the audit. -/
theorem transferPhase_passes {user1 user2 address : Address} {tokenId : Nat}
    {record : TokenRecord} {recorded : Table Nat TokenRecord} {a₁ : σ} (hs : context.Shows p)
    (hphase : p.phase = .minting) (hcontract : p.contract = some address)
    (hrecord : p.tokens.get? tokenId = some record)
    (hsend : Includes o.client a user1 address (transferFrom record.owner user2 tokenId) a₁
      fun _ => True)
    (hread : ReadsBack o.client a₁ address (ownerOf tokenId) Abi.Token.asAddress user2)
    (hrecorded : ∀ c : Context, c.tokens = p.tokens →
      (c.setOwner tokenId user2).tokens = recorded)
    (haudit : ∀ record ∈ recorded.values,
      ReadsBack o.client a₁ address (ownerOf record.tokenId) Abi.Token.asAddress record.owner ∧
      ReadsBack o.client a₁ address (tokenUri record.tokenId) Abi.Token.asString record.uri) :
    Passes (o.transferPhase (some tokenId) user1 user2) ⟨a, context⟩ () a₁
      { p with phase := .transferring, tokens := recorded } := by
  unfold transferPhase
  refine (transition_passes hs (by rw [hphase]; rfl)).bind fun context₁ hs₁ => ?_
  refine (emit_passes hs₁).bind fun context₂ hs₂ => ?_
  refine (transferToken_passes hs₂ rfl hcontract hrecord hsend hread hrecorded).tolerate.map.bind
    fun context₃ hs₃ => ?_
  exact (auditTokens_passes hs₃ hcontract haudit).map

/-- The validation phase passes on the answers of its chain check, and when the contract's
metadata reads and agrees with the expectations; the run completes. -/
theorem validatePhase_passes {address : Address} {snapshot : BlockSnapshot}
    {tokens : List Abi.Token} {info : ContractInfo} (hs : context.Shows p)
    (hphase : p.phase = .transferring) (hcontract : p.contract = some address)
    (hcheck : ChainAnswers o.client a o.expectations p.contract snapshot)
    (hread : Ends (o.client.read address getContractInfo) a (.ok tokens) a)
    (hinfo : ContractInfo.ofTokens tokens = .ok info)
    (hfits : ∀ baseline, p.baseline = some baseline → baseline + p.tokens.length ≤ u64Max)
    (hagrees : MetadataAgrees info o.expectations (p.baseline.map (· + p.tokens.length))) :
    Passes o.validatePhase ⟨a, context⟩ () a { p with phase := .completed } := by
  unfold validatePhase
  refine (transition_passes hs (by rw [hphase]; rfl)).bind fun context₁ hs₁ => ?_
  refine (emit_passes hs₁).bind fun context₂ hs₂ => ?_
  refine (checkL3_passes hs₂ hcheck).map.bind fun context₃ hs₃ => ?_
  refine (validateMetadata_passes hs₃ hcontract hread hinfo hfits hagrees).tolerate.map.bind
    fun context₄ hs₄ => ?_
  exact transition_passes (p := { p with phase := .validating }) hs₄ rfl

/-- A test run whose steps pass from the fresh context returns the client where they left it and
a context that shows their progress. -/
theorem runWorkflow_passes {runId startedAt : String} {artifact : Artifact} {a' : σ}
    {p' : Progress} (h : Passes (o.executeFull artifact)
      ⟨a, Context.create runId startedAt .test⟩ () a' p') (log : Array LogRecord) :
    ∃ context log', (o.runWorkflow .test runId startedAt artifact a).run log =
      .ok ((a', context), log') ∧ context.Shows p' := by
  have hguarded : Returns (tryCatch (o.executeFull artifact) fun error => do
      emit .error ("Run " ++ runId ++ " stopped: " ++ error.message)
      abort) ⟨a, Context.create runId startedAt .test⟩
      fun x s' => x = () ∧ s'.client = a' ∧ s'.context.Shows p' :=
    returns_tryCatch h
  unfold runWorkflow
  dsimp only
  rw [emit_bind_run, StateT.run_bind]
  obtain ⟨_, ⟨client, context⟩, log', hrun, -, hclient, hshows⟩ := hguarded (log.push _)
  dsimp only at hclient hshows
  subst hclient
  erw [hrun]
  exact ⟨context, log', rfl, hshows⟩

end Orchestrator

end NftProbe.Run
