import NftProbe.Proofs.Run.Transcript
import NftProbe.Proofs.Run.Records

/-!
# The chain check

A chain check reads the latest block and, once a contract is deployed, the contract's own view
of the chain (`chainReads`). It passes when the block is readable and reports the expected
chain id, and the contract's view, when it can be read and decoded, reports the same id
(`chainAgrees`); a view that cannot be read is only noted. The check's verdict is the shape of
what it returns and records (`CheckVerdict`): a value and outcomes that are at most reported,
its own among them, when it passes; its error and its one failed outcome when it does not.

`checkL3_law` says what every chain check does, for every client and context (`ChainChecked`):
it makes exactly these reads and enters no phase; the node's chain id is checked before the
contract's, and a view that cannot be read or decoded never fails the check; a block that was
read is kept, whether the check passes or not; and one outcome is recorded under the check's
name, with the blocks and seconds since the last snapshot, followed by the gas floor's outcome
when the check passed and a floor is expected. The verdict of `checkL3_spec` follows from it.
-/

set_option autoImplicit false

namespace NftProbe.Run

open StepM Contract

/-- The calls a chain check makes: the latest block, and the contract's view of the chain once
a contract is deployed. -/
def chainReads (contract : Option Address) (snapshot : Except ClientError BlockSnapshot)
    (view : Except ClientError (List Abi.Token)) : List Exchange :=
  .snapshot snapshot :: match contract with
    | some contract => [.read contract validateL3Chain view]
    | none => []

/-- The contract's view of the chain as the check reads it. -/
def viewResult : Except ClientError (List Abi.Token) → Except HarnessError L3View
  | .ok tokens => (L3View.ofTokens tokens).mapError .abi
  | .error error => .error (.client error)

/-- Whether the contract's answer agrees with the expected chain id. An answer that cannot be
read or decoded does not disagree. -/
def viewAgrees (expected : Nat) : Except ClientError (List Abi.Token) → Bool
  | .ok tokens => match L3View.ofTokens tokens with
    | .ok view => view.chainId == expected
    | .error _ => true
  | .error _ => true

/-- Whether a chain check passes on the answers it reads. -/
def chainAgrees (expected : Nat) (contract : Option Address) :
    Except ClientError BlockSnapshot → Except ClientError (List Abi.Token) → Bool
  | .ok block, view => block.chainId == expected && (contract.isNone || viewAgrees expected view)
  | .error _, _ => false

theorem chainAgrees_ok {expected : Nat} {contract : Option Address} {block : BlockSnapshot}
    {view : Except ClientError (List Abi.Token)} :
    chainAgrees expected contract (.ok block) view = true ↔
      block.chainId = expected ∧
        ∀ v, contract.map (fun _ => viewResult view) = some (.ok v) → v.chainId = expected := by
  cases contract with
  | none => simp [chainAgrees]
  | some contract =>
    cases view with
    | error err => simp [chainAgrees, viewResult, viewAgrees]
    | ok tokens =>
      cases hview : L3View.ofTokens tokens <;>
        simp [chainAgrees, viewResult, viewAgrees, hview, Except.mapError]

/-- What a check returns and records. When it passes: a value, and outcomes none of which is
fatal, one of them under the check's name. When it fails: its error, and one failed outcome
under its name carrying the error's kind. -/
def CheckVerdict {α : Type} (name : String) :
    Bool → Except HarnessError α → List StepOutcome → Prop
  | true, r, recorded => (∃ a, r = .ok a) ∧ name ∈ recorded.map (·.step) ∧
      ∀ o ∈ recorded, o.severity ≠ some .fatal
  | false, r, recorded => ∃ e o, r = .error e ∧ recorded = [o] ∧ o.step = name ∧
      o.success = false ∧ o.error = some e.kind

/-- The keys `verifyChain` adds to an outcome: what the contract's view reported, or why it could
not be read. -/
def contractViewKeys : List String :=
  ["contractChainId", "contractBlockNumber", "contractView"]

/-- What `verifyChain` finds: the node's chain id is checked first, and then, when the contract's
view was read and decoded, the contract's; a view that was not is only noted. The outcome keeps its
name, success, error and every detail but those of the contract's view. -/
theorem verifyChain_law {snapshot : BlockSnapshot} {view : Option (Except HarnessError L3View)}
    {expected : Nat} {outcome : StepOutcome} {log : Array LogRecord}
    {result : StepOutcome × Option HarnessError} {log' : Array LogRecord}
    (h : (verifyChain snapshot view expected outcome).run log = .ok (result, log')) :
    result.1.step = outcome.step ∧ result.1.success = outcome.success ∧
      result.1.error = outcome.error ∧
      (∀ key ∉ contractViewKeys, result.1.details.get? key = outcome.details.get? key) ∧
      (snapshot.chainId ≠ expected → result.2 = some (.wrongChain expected snapshot.chainId .node)) ∧
      (∀ v, snapshot.chainId = expected → view = some (.ok v) → v.chainId ≠ expected →
        result.2 = some (.wrongChain expected v.chainId .contract)) ∧
      (result.2 = none ↔
        snapshot.chainId = expected ∧ ∀ v, view = some (.ok v) → v.chainId = expected) := by
  unfold verifyChain at h
  by_cases hnode : snapshot.chainId = expected
  · simp only [hnode, ne_eq, not_true_eq_false, if_false] at h
    rcases view with _ | _ | v
    · simp only [logged_pure_run, Except.ok.injEq, Prod.mk.injEq] at h
      obtain ⟨rfl, -⟩ := h
      simp [hnode]
    · simp only [emit_bind_run, logged_pure_run, Except.ok.injEq, Prod.mk.injEq] at h
      obtain ⟨rfl, -⟩ := h
      refine ⟨rfl, rfl, rfl, fun key hkey => ?_, by simp [hnode]⟩
      simp only [contractViewKeys, List.mem_cons, List.not_mem_nil, or_false, not_or] at hkey
      simp [StepOutcome.detail, Ne.symm hkey.2.2]
    · by_cases hview : v.chainId = expected
      · simp only [hview, not_true_eq_false, if_false, logged_pure_run, Except.ok.injEq,
          Prod.mk.injEq] at h
        obtain ⟨rfl, -⟩ := h
        refine ⟨rfl, rfl, rfl, fun key hkey => ?_, by simp [hnode, hview]⟩
        simp only [contractViewKeys, List.mem_cons, List.not_mem_nil, or_false, not_or] at hkey
        simp [StepOutcome.detail, Ne.symm hkey.1, Ne.symm hkey.2.1]
      · simp only [hview, not_false_eq_true, if_true, emit_bind_run, logged_pure_run,
          Except.ok.injEq, Prod.mk.injEq] at h
        obtain ⟨rfl, -⟩ := h
        refine ⟨rfl, rfl, rfl, fun key hkey => ?_, by simp [hnode, hview]⟩
        simp only [contractViewKeys, List.mem_cons, List.not_mem_nil, or_false, not_or] at hkey
        simp [StepOutcome.detail, Ne.symm hkey.1, Ne.symm hkey.2.1]
  · simp only [hnode, ne_eq, not_false_eq_true, if_true, emit_bind_run, logged_pure_run,
      Except.ok.injEq, Prod.mk.injEq] at h
    obtain ⟨rfl, -⟩ := h
    simp [hnode]

/-- `verifyChain` only adds details to the outcome, and finds no error exactly when the node
and a readable contract view report the expected chain id. -/
theorem verifyChain_run {snapshot : BlockSnapshot} {view : Option (Except HarnessError L3View)}
    {expected : Nat} {outcome : StepOutcome} {log : Array LogRecord}
    {result : StepOutcome × Option HarnessError} {log' : Array LogRecord}
    (h : (verifyChain snapshot view expected outcome).run log = .ok (result, log')) :
    result.1.step = outcome.step ∧ result.1.success = outcome.success ∧
      result.1.error = outcome.error ∧
      (result.2 = none ↔
        snapshot.chainId = expected ∧ ∀ v, view = some (.ok v) → v.chainId = expected) := by
  obtain ⟨hstep, hsuccess, herror, -, -, -, hnone⟩ := verifyChain_law h
  exact ⟨hstep, hsuccess, herror, hnone⟩

/-- The outcome of a gas floor check: named after the check, and failing, as a validation
mismatch, exactly when the block's gas limit is below the floor. -/
def GasChecked (name : String) (block : BlockSnapshot) (minimum : Nat) (o : StepOutcome) : Prop :=
  o.step = name ++ ".gas_limit" ∧ (o.success = false ↔ block.gasLimit < minimum) ∧
    o.error = if block.gasLimit < minimum then some .validationMismatch else none

theorem checkGasFloor_law {step : String} {snapshot : BlockSnapshot} {minimum : Nat}
    {log log' : Array LogRecord} {o : StepOutcome}
    (h : (checkGasFloor step snapshot minimum).run log = .ok (o, log')) :
    GasChecked step snapshot minimum o := by
  unfold checkGasFloor at h
  by_cases hfloor : minimum ≤ snapshot.gasLimit
  · simp only [hfloor, if_true, logged_pure_run, Except.ok.injEq, Prod.mk.injEq] at h
    obtain ⟨rfl, -⟩ := h
    have hlow : ¬snapshot.gasLimit < minimum := Nat.not_lt.2 hfloor
    simp [GasChecked, hlow]
  · simp only [hfloor, if_false, emit_bind_run, logged_pure_run, Except.ok.injEq,
      Prod.mk.injEq] at h
    obtain ⟨rfl, -⟩ := h
    have hlow : snapshot.gasLimit < minimum := Nat.lt_of_not_le hfloor
    simp [GasChecked, hlow, HarnessError.kind]

/-- A low gas limit is only reported. -/
theorem GasChecked.severity_ne_fatal {name : String} {block : BlockSnapshot} {minimum : Nat}
    {o : StepOutcome} (h : GasChecked name block minimum o) : o.severity ≠ some .fatal := by
  rw [StepOutcome.severity, h.2.2]
  split <;> simp [ErrorKind.severity]

/-! ### The law of a chain check -/

/-- The first entry of a table holds its key's value. -/
theorem Table.get?_cons {ν : Type} (k : String) (v : ν) (rest : Table String ν) (key : String) :
    Table.get? ((k, v) :: rest) key = if k = key then some v else rest.get? key := by
  by_cases hk : k = key <;> simp [Table.get?, hk]

@[simp] theorem Table.get?_nil {ν : Type} (key : String) : Table.get? ([] : Table String ν) key = none :=
  rfl

namespace StepOutcome

/-- Merging a check's details into a failure keeps the failure's details and adds the others. -/
theorem mergeDetails_get? (failed outcome : StepOutcome) (key : String) :
    (mergeDetails failed outcome).details.get? key =
      (failed.details.get? key).or (outcome.details.get? key) := by
  obtain ⟨step, success, details, error, message⟩ := outcome
  unfold mergeDetails
  dsimp only
  induction details generalizing failed with
  | nil => simp
  | cons entry rest ih =>
    obtain ⟨k, v⟩ := entry
    rw [List.foldl_cons, ih, Table.get?_cons]
    dsimp only
    by_cases hcontains : failed.details.contains k = true
    · rw [if_pos hcontains]
      by_cases hk : k = key
      · subst hk
        rw [Table.contains_eq_isSome_get?] at hcontains
        obtain ⟨w, hw⟩ := Option.isSome_iff_exists.1 hcontains
        simp [hw]
      · rw [if_neg hk]
    · rw [if_neg hcontains]
      by_cases hk : k = key
      · subst hk
        have hnone : failed.details.get? k = none := by
          rw [Table.contains_eq_isSome_get?] at hcontains
          simpa using hcontains
        simp [detail, hnone]
      · simp [detail, hk]

/-- The details of a failure are those of its error, none of them about blocks or time. -/
theorem failed_details_get? (name : String) (e : HarnessError) {key : String}
    (hkey : key ∉ ["expected", "observed", "source", "field", "tokenId"]) :
    (failed name e).details.get? key = none := by
  simp only [List.mem_cons, List.not_mem_nil, or_false, not_or] at hkey
  cases e <;> simp [failed, detail, Ne.symm hkey.1, Ne.symm hkey.2.1,
    Ne.symm hkey.2.2.1, Ne.symm hkey.2.2.2.1, Ne.symm hkey.2.2.2.2]

end StepOutcome

/-- The contract's view, once a contract is deployed, as the check compares it. -/
theorem forall_deployed_view_iff {deployment : Option DeploymentResult}
    {view : Except ClientError (List Abi.Token)} {P : L3View → Prop} :
    (∀ v, (deployment.map (·.contractAddress)).map (fun _ => viewResult view) = some (.ok v) →
      P v) ↔ (deployment.isSome → ∀ v, viewResult view = .ok v → P v) := by
  cases deployment <;> simp

theorem deployed_view_eq {deployment : Option DeploymentResult}
    {view : Except ClientError (List Abi.Token)} (h : deployment.isSome) :
    (deployment.map (·.contractAddress)).map (fun _ => viewResult view) = some (viewResult view) := by
  cases deployment with
  | none => cases h
  | some deployment => rfl

/-- The blocks and seconds an outcome reports since the snapshot before `block`: none when there
was no snapshot before, differences stopping at zero otherwise. -/
def ReportsElapsed (before : Context) (block : BlockSnapshot) (o : StepOutcome) : Prop :=
  o.details.get? "blocksElapsed" =
      before.lastSnapshot.map (fun p => .nat (block.blockNumber - p.snapshot.blockNumber)) ∧
    o.details.get? "secondsElapsed" =
      before.lastSnapshot.map (fun p => .nat (block.timestamp - p.snapshot.timestamp))

/-- An outcome reports the time since the last snapshot as another does when it has the same
details for it. -/
theorem ReportsElapsed.of_details {before : Context} {block : BlockSnapshot} {o o' : StepOutcome}
    (h : ReportsElapsed before block o')
    (hsame : ∀ key ∈ ["blocksElapsed", "secondsElapsed"], o.details.get? key = o'.details.get? key) :
    ReportsElapsed before block o :=
  ⟨(hsame _ (by simp)).trans h.1, (hsame _ (by simp)).trans h.2⟩

/-- The time since the last snapshot is neither a detail of the contract's view nor one of a
failure. -/
theorem elapsedKeys_not_mem {key : String} (hkey : key ∈ ["blocksElapsed", "secondsElapsed"]) :
    key ∉ contractViewKeys ∧ key ∉ ["expected", "observed", "source", "field", "tokenId"] := by
  simp only [List.mem_cons, List.not_mem_nil, or_false] at hkey
  rcases hkey with rfl | rfl <;> decide

/-- What one chain check does, read off the client's answers: `snapshot`, the latest block, and
`view`, the contract's answer to `validateL3Chain()`, which counts once a contract is deployed. -/
structure ChainChecked (expectations : Expectations) (label : String) (before after : Context)
    (snapshot : Except ClientError BlockSnapshot) (view : Except ClientError (List Abi.Token))
    (r : Except HarnessError BlockSnapshot) (recorded : List StepOutcome) : Prop where
  /-- The check returns the block exactly when the block was read with the expected chain id,
  and, once a contract is deployed, its view, read and decoded, reports that id too. -/
  passes : ∀ block, r = .ok block ↔ snapshot = .ok block ∧ block.chainId = expectations.chainId ∧
    (before.deployment.isSome → ∀ v, viewResult view = .ok v → v.chainId = expectations.chainId)
  /-- A block that cannot be read fails the check with the client's error. -/
  unread : ∀ e, snapshot = .error e → r = .error (.client e)
  /-- The node's chain id is checked first. -/
  nodeFirst : ∀ block, snapshot = .ok block → block.chainId ≠ expectations.chainId →
    r = .error (.wrongChain expectations.chainId block.chainId .node)
  /-- The contract's next, when a contract is deployed and its view read and decoded. -/
  contractNext : ∀ block v, snapshot = .ok block → block.chainId = expectations.chainId →
    before.deployment.isSome → viewResult view = .ok v → v.chainId ≠ expectations.chainId →
    r = .error (.wrongChain expectations.chainId v.chainId .contract)
  /-- A view that cannot be read or decoded never fails the check. -/
  viewIgnored : ∀ block e, snapshot = .ok block → block.chainId = expectations.chainId →
    viewResult view = .error e → r = .ok block
  /-- A block that was read is kept under the label, whether the check passes or not. -/
  keepsSnapshot : after.snapshots =
    before.snapshots ++ (snapshot.toOption.map fun block => ⟨label, block⟩).toList
  /-- One outcome under the check's name, which passed exactly when the check did and reports
  the time since the last snapshot when a block was read; then the gas floor's outcome when the
  check passed and a floor is expected, and none otherwise. -/
  outcomes : ∃ o gas, recorded = o :: gas ∧ o.step = chainCheckStep label ∧
    (o.success = true ↔ ∃ block, r = .ok block) ∧ (∀ block, r = .ok block → o.error = none) ∧
    (∀ e, r = .error e → o.error = some e.kind) ∧
    (∀ block, snapshot = .ok block → ReportsElapsed before block o) ∧
    (∀ block, r = .ok block → ∀ minimum, expectations.minGasLimit = some minimum →
      ∃ g, gas = [g] ∧ GasChecked (chainCheckStep label) block minimum g) ∧
    ((∀ block, r ≠ .ok block) ∨ expectations.minGasLimit = none → gas = [])

section Checked

variable {expectations : Expectations} {label : String} {before after : Context}
  {view : Except ClientError (List Abi.Token)}

/-- A check whose block cannot be read fails with the client's error and records only that. -/
theorem ChainChecked.of_unread (e : ClientError) (hkeeps : after.snapshots = before.snapshots) :
    ChainChecked expectations label before after (.error e) view (.error (.client e))
      [StepOutcome.failed (chainCheckStep label) (.client e)] where
  passes block := by simp
  unread e' he := by cases he; rfl
  nodeFirst block h := by cases h
  contractNext block v h := by cases h
  viewIgnored block e' h := by cases h
  keepsSnapshot := by simp [hkeeps, Except.toOption]
  outcomes := by
    refine ⟨_, [], rfl, by simp, by simp, ?_, ?_, ?_, ?_, fun _ => rfl⟩
    · intro block h
      cases h
    · intro e' h
      cases h
      simp
    · intro block h
      cases h
    · intro block h
      cases h

variable {block : BlockSnapshot} {outcome : StepOutcome} {log log' : Array LogRecord}
  {result : StepOutcome × Option HarnessError}

/-- A check whose block was read but whose chain differs fails with the difference found, and
records one failed outcome carrying the details of the block. -/
theorem ChainChecked.of_wrongChain {error : HarnessError}
    (hverify : (verifyChain block ((before.deployment.map (·.contractAddress)).map
      fun _ => viewResult view) expectations.chainId outcome).run log = .ok (result, log'))
    (hsome : result.2 = some error) (helapsed : ReportsElapsed before block result.1)
    (hkeeps : after.snapshots = before.snapshots ++ [⟨label, block⟩]) :
    ChainChecked expectations label before after (.ok block) view (.error error)
      [mergeDetails (StepOutcome.failed (chainCheckStep label) error) result.1] := by
  obtain ⟨-, -, -, -, hnode, hcontract, hnone⟩ := verifyChain_law hverify
  have hdiffers : ¬(block.chainId = expectations.chainId ∧
      (before.deployment.isSome → ∀ v, viewResult view = .ok v →
        v.chainId = expectations.chainId)) := by
    rintro ⟨hchain, hview⟩
    have := hnone.2 ⟨hchain, forall_deployed_view_iff.2 hview⟩
    rw [hsome] at this
    cases this
  refine ⟨?_, ?_, ?_, ?_, ?_, by rw [hkeeps]; rfl, ?_⟩
  · intro b
    constructor
    · intro h
      cases h
    · rintro ⟨hb, hagrees⟩
      cases hb
      exact absurd hagrees hdiffers
  · intro e h
    cases h
  · intro b hb hne
    cases hb
    rw [Option.some.inj (hsome.symm.trans (hnode hne))]
  · intro b v hb hchain hdeployed hview hne
    cases hb
    have hread := (deployed_view_eq hdeployed).trans (congrArg some hview)
    rw [Option.some.inj (hsome.symm.trans (hcontract v hchain hread hne))]
  · intro b e hb hchain hview
    cases hb
    refine absurd ⟨hchain, fun _ v hv => ?_⟩ hdiffers
    rw [hview] at hv
    cases hv
  · refine ⟨_, [], rfl, by simp, by simp, ?_, ?_, ?_, ?_, fun _ => rfl⟩
    · intro b h
      cases h
    · intro e h
      cases h
      simp
    · intro b hb
      cases hb
      refine helapsed.of_details fun key hkey => ?_
      rw [StepOutcome.mergeDetails_get?,
        StepOutcome.failed_details_get? _ _ (elapsedKeys_not_mem hkey).2, Option.none_or]
    · intro b h
      cases h

/-- A check whose block and view agree with the expected chain returns the block, and records its
own outcome and then the gas floor's when one is expected. -/
theorem ChainChecked.of_verified {gas : List StepOutcome}
    (hverify : (verifyChain block ((before.deployment.map (·.contractAddress)).map
      fun _ => viewResult view) expectations.chainId outcome).run log = .ok (result, log'))
    (hnone : result.2 = none) (hstep : result.1.step = chainCheckStep label)
    (hsuccess : result.1.success = true) (herror : result.1.error = none)
    (helapsed : ReportsElapsed before block result.1)
    (hkeeps : after.snapshots = before.snapshots ++ [⟨label, block⟩])
    (hgas : ∀ minimum, expectations.minGasLimit = some minimum →
      ∃ g, gas = [g] ∧ GasChecked (chainCheckStep label) block minimum g)
    (hnoGas : expectations.minGasLimit = none → gas = []) :
    ChainChecked expectations label before after (.ok block) view (.ok block)
      (result.1 :: gas) := by
  obtain ⟨-, -, -, -, -, -, hverdict⟩ := verifyChain_law hverify
  obtain ⟨hchain, hview⟩ := hverdict.1 hnone
  have hagrees := forall_deployed_view_iff.1 hview
  refine ⟨?_, ?_, ?_, ?_, ?_, by rw [hkeeps]; rfl, ?_⟩
  · intro b
    constructor
    · intro hb
      cases hb
      exact ⟨rfl, hchain, hagrees⟩
    · rintro ⟨hb, -⟩
      cases hb
      rfl
  · intro e h
    cases h
  · intro b hb hne
    cases hb
    exact absurd hchain hne
  · intro b v hb _ hdeployed hv hne
    cases hb
    exact absurd (hagrees hdeployed v hv) hne
  · intro b e hb _ _
    cases hb
    rfl
  · refine ⟨result.1, gas, rfl, hstep, by simp [hsuccess], fun _ _ => herror, ?_, ?_, ?_, ?_⟩
    · intro e h
      cases h
    · intro b hb
      cases hb
      exact helapsed
    · intro b hb
      cases hb
      exact hgas
    · rintro (hfails | hfloor)
      · exact absurd rfl (hfails block)
      · exact hnoGas hfloor

/-- A chain check reaches the verdict its answers call for. -/
theorem ChainChecked.verdict {snapshot : Except ClientError BlockSnapshot}
    {r : Except HarnessError BlockSnapshot} {recorded : List StepOutcome}
    (h : ChainChecked expectations label before after snapshot view r recorded) :
    CheckVerdict (chainCheckStep label)
      (chainAgrees expectations.chainId (before.deployment.map (·.contractAddress)) snapshot view)
      r recorded := by
  obtain ⟨o, gas, rfl, hstep, hsuccess, herror, hfailed, -, hgas, hnoGas⟩ := h.outcomes
  have hfails : ∀ e, r = .error e → CheckVerdict (chainCheckStep label) false r (o :: gas) := by
    intro e hr
    have hnone : ∀ block, r ≠ .ok block := by
      intro block hblock
      rw [hr] at hblock
      cases hblock
    have hfalse : o.success = false := by
      simpa [hnone] using hsuccess
    rw [hnoGas (.inl hnone)]
    exact ⟨e, o, hr, rfl, hstep, hfalse, hfailed e hr⟩
  cases snapshot with
  | error e =>
    exact hfails _ (h.unread e rfl)
  | ok block =>
    by_cases hpass : chainAgrees expectations.chainId
        (before.deployment.map (·.contractAddress)) (.ok block) view = true
    · rw [hpass]
      obtain ⟨hchain, hview⟩ := chainAgrees_ok.1 hpass
      have hr : r = .ok block := (h.passes block).2 ⟨rfl, hchain, forall_deployed_view_iff.1 hview⟩
      refine ⟨⟨block, hr⟩, by simp [hstep], ?_⟩
      intro o' ho'
      rcases List.mem_cons.1 ho' with rfl | hgasMem
      · simp [StepOutcome.severity_of_error_none (herror block hr)]
      · cases hfloor : expectations.minGasLimit with
        | none =>
          rw [hnoGas (.inr hfloor)] at hgasMem
          cases hgasMem
        | some minimum =>
          obtain ⟨g, rfl, hg⟩ := hgas block hr minimum hfloor
          rw [List.mem_singleton.1 hgasMem]
          exact hg.severity_ne_fatal
    · rw [Bool.not_eq_true] at hpass
      rw [hpass]
      cases hr : r with
      | ok a =>
        have := ((h.passes a).1 hr).1
        cases this
        obtain ⟨-, hchain, hview⟩ := (h.passes block).1 hr
        rw [← Bool.not_eq_true, chainAgrees_ok] at hpass
        exact absurd ⟨hchain, forall_deployed_view_iff.2 hview⟩ hpass
      | error e =>
        rw [← hr]
        exact hfails e hr

/-- A chain check records exactly one outcome under its own name. -/
theorem ChainChecked.count_step {snapshot : Except ClientError BlockSnapshot}
    {r : Except HarnessError BlockSnapshot} {recorded : List StepOutcome}
    (h : ChainChecked expectations label before after snapshot view r recorded) :
    (recorded.map (·.step)).count (chainCheckStep label) = 1 := by
  obtain ⟨o, gas, rfl, hstep, -, -, -, -, hgas, hnoGas⟩ := h.outcomes
  have hgasStep : ∀ g ∈ gas, g.step ≠ chainCheckStep label := by
    intro g hg
    by_cases hr : ∃ block, r = .ok block
    · obtain ⟨block, hr⟩ := hr
      cases hfloor : expectations.minGasLimit with
      | none =>
        rw [hnoGas (.inr hfloor)] at hg
        cases hg
      | some minimum =>
        obtain ⟨g', rfl, hg'⟩ := hgas block hr minimum hfloor
        rw [List.mem_singleton.1 hg, hg'.1]
        intro heq
        have := congrArg String.length heq
        simp at this
    · rw [hnoGas (.inl (fun block hblock => hr ⟨block, hblock⟩))] at hg
      cases hg
  rw [List.map_cons, hstep, List.count_cons_self, List.count_eq_zero.2]
  simp only [List.mem_map, not_exists, not_and]
  exact fun g hg heq => hgasStep g hg heq

end Checked

variable {σ : Type} (c : Client σ)

theorem readViews_spec (contract : Option Address) (s : Session σ) :
    Ensures (readViews c contract) (fun r s' => s'.context = s.context ∧
      ∃ snapshot view, c.Reaches s.client (chainReads contract snapshot view) s'.client ∧
        r = .ok (snapshot.mapError .client, contract.map fun _ => viewResult view)) s := by
  cases contract with
  | none =>
    refine ensures_bind (ensures_call fun snapshot c₁ hsnapshot => ?_)
    exact ensures_pure ⟨rfl, snapshot, .ok [],
      Client.Reaches.milestone (e := .snapshot snapshot) hsnapshot rfl, rfl⟩
  | some contract =>
    refine ensures_bind (ensures_call fun snapshot c₁ hsnapshot => ?_)
    refine ensures_bind (ensures_call fun view c₂ hview => ?_)
    have hread : Exchange.isMilestone (.read contract validateL3Chain view) = true := by
      simp [Exchange.isMilestone, validateL3Chain]
    exact ensures_pure ⟨rfl, snapshot, view,
      (Client.Reaches.milestone (e := .snapshot snapshot) hsnapshot rfl).trans
        (Client.Reaches.milestone (e := .read contract validateL3Chain view) hview hread), rfl⟩

/-- Every chain check makes the chain reads, enters no phase, keeps the tokens, and does what its
answers call for. -/
theorem checkL3_law (expectations : Expectations) (label : String) (s : Session σ) :
    Ensures (checkL3 c expectations label) (fun r s' =>
      ∃ snapshot view recorded,
        c.Reaches s.client
          (chainReads (s.context.deployment.map (·.contractAddress)) snapshot view) s'.client ∧
        s.context.Moves s'.context [] recorded ∧ s'.context.tokens = s.context.tokens ∧
        ChainChecked expectations label s.context s'.context snapshot view r recorded) s := by
  unfold checkL3
  dsimp only
  refine ensures_bind (ensures_context ?_)
  rw [continue_ok]
  refine Ensures.bind (readViews_spec c _ s) ?_
  rintro _ ⟨c₁, ctx₁⟩ ⟨hctx₁, snapshot, view, hreach, rfl⟩
  dsimp only at hctx₁ hreach
  subst hctx₁
  rw [continue_ok]
  cases snapshot with
  | error err =>
    refine ensures_bind (ensures_record ?_)
    rw [continue_ok]
    refine ensures_bind (ensures_throw ?_)
    rw [continue_error]
    exact ⟨.error err, view, _, hreach, Context.moves_record _ _, rfl,
      ChainChecked.of_unread err rfl⟩
  | ok block =>
    refine ensures_bind (ensures_pure ?_)
    rw [continue_ok]
    refine ensures_bind (ensures_context ?_)
    rw [continue_ok]
    split <;> rename_i hlast
    refine ensures_bind (ensures_emit ?_)
    rw [continue_ok]
    all_goals
      refine ensures_bind (ensures_pure ?_)
      rw [continue_ok]
      refine ensures_bind (ensures_modifyContext ?_)
      rw [continue_ok]
      refine ensures_bind (ensures_liftM fun log result log' hverify => ?_)
      rw [continue_ok]
      obtain ⟨hstep, hsuccess, herror, hdetails, -, -, -⟩ := verifyChain_law hverify
      simp only [StepOutcome.detail_step, StepOutcome.detail_success, StepOutcome.detail_error,
        StepOutcome.passed_step, StepOutcome.passed_success,
        StepOutcome.passed_error] at hstep hsuccess herror
      have helapsed : ReportsElapsed s.context block result.1 := by
        refine ReportsElapsed.of_details ?_ fun key hkey => hdetails key (elapsedKeys_not_mem hkey).1
        simp [ReportsElapsed, hlast, StepOutcome.detail, StepOutcome.passed]
      split
      · rename_i error hsome
        refine ensures_bind (ensures_record ?_)
        rw [continue_ok]
        exact ensures_throw ⟨.ok block, view, _, hreach,
          (Context.moves_addSnapshot _ _ _).trans (Context.moves_record _ _), rfl,
          ChainChecked.of_wrongChain hverify hsome helapsed rfl⟩
      · rename_i hnone
        refine ensures_bind (ensures_emit ?_)
        rw [continue_ok]
        refine ensures_bind (ensures_record ?_)
        rw [continue_ok]
        have hmoves := (Context.moves_addSnapshot s.context label block).trans
          (Context.moves_record _ result.1)
        split
        · rename_i minimum hfloor
          refine ensures_bind (ensures_liftM fun log₂ gas log₃ hgas => ?_)
          rw [continue_ok]
          refine ensures_bind (ensures_record ?_)
          rw [continue_ok]
          refine ensures_pure ⟨.ok block, view, _, hreach,
            hmoves.trans (Context.moves_record _ gas), rfl,
            ChainChecked.of_verified hverify hnone hstep hsuccess herror helapsed rfl ?_ ?_⟩
          · intro m hm
            rw [hfloor] at hm
            cases hm
            exact ⟨gas, rfl, checkGasFloor_law hgas⟩
          · intro hm
            rw [hfloor] at hm
            cases hm
        · rename_i hfloor
          refine ensures_pure ⟨.ok block, view, _, hreach, hmoves, rfl,
            ChainChecked.of_verified hverify hnone hstep hsuccess herror helapsed rfl ?_
              fun _ => rfl⟩
          intro m hm
          exact absurd hm (hfloor m)

/-- Every chain check makes the chain reads, enters no phase, keeps the tokens, and reaches the
verdict its answers call for. -/
theorem checkL3_spec (expectations : Expectations) (label : String) (s : Session σ) :
    Ensures (checkL3 c expectations label) (fun r s' =>
      ∃ snapshot view recorded,
        c.Reaches s.client
          (chainReads (s.context.deployment.map (·.contractAddress)) snapshot view) s'.client ∧
        s.context.Moves s'.context [] recorded ∧ s'.context.tokens = s.context.tokens ∧
        CheckVerdict (chainCheckStep label)
          (chainAgrees expectations.chainId (s.context.deployment.map (·.contractAddress))
            snapshot view) r recorded) s := by
  refine (checkL3_law c expectations label s).mono ?_
  rintro r s' ⟨snapshot, view, recorded, hreach, hmoves, htokens, hchecked⟩
  exact ⟨snapshot, view, recorded, hreach, hmoves, htokens, hchecked.verdict⟩

/-- A chain check, for every client, expectations, label and session, reads the latest block and,
once a contract is deployed, the contract's view; passes or fails as `ChainChecked` says, the
node's chain id checked before the contract's; keeps the block it read; and records one outcome
under its own name, followed only by the gas floor's. -/
theorem chain_check_decides_and_records (expectations : Expectations) (label : String)
    (s : Session σ) :
    Ensures (checkL3 c expectations label) (fun r s' =>
      ∃ snapshot view recorded,
        c.Reaches s.client
          (chainReads (s.context.deployment.map (·.contractAddress)) snapshot view) s'.client ∧
        s.context.Moves s'.context [] recorded ∧
        ChainChecked expectations label s.context s'.context snapshot view r recorded ∧
        (recorded.map (·.step)).count (chainCheckStep label) = 1) s := by
  refine (checkL3_law c expectations label s).mono ?_
  rintro r s' ⟨snapshot, view, recorded, hreach, hmoves, -, hchecked⟩
  exact ⟨snapshot, view, recorded, hreach, hmoves, hchecked, hchecked.count_step⟩

theorem CheckVerdict.map {α β : Type} {name : String} {passes : Bool} {r : Except HarnessError α}
    {recorded : List StepOutcome} (f : α → β) (h : CheckVerdict name passes r recorded) :
    CheckVerdict name passes (f <$> r) recorded := by
  cases passes with
  | true =>
    obtain ⟨⟨a, rfl⟩, hname, hharmless⟩ := h
    exact ⟨⟨f a, rfl⟩, hname, hharmless⟩
  | false =>
    obtain ⟨e, o, rfl, rest⟩ := h
    exact ⟨e, o, rfl, rest⟩

/-- A check that returned passed. -/
theorem CheckVerdict.passes_of_ok {α : Type} {name : String} {passes : Bool} {a : α}
    {recorded : List StepOutcome} (h : CheckVerdict name passes (.ok a) recorded) :
    passes = true ∧ Ran [name] recorded ∧ Harmless recorded := by
  cases passes with
  | true => exact ⟨rfl, ran_singleton.2 h.2.1, h.2.2⟩
  | false =>
    obtain ⟨e, o, he, -⟩ := h
    cases he

/-- A check that failed did not pass, and recorded its failure last. -/
theorem CheckVerdict.fails_of_error {α : Type} {name : String} {passes : Bool}
    {e : HarnessError} {recorded : List StepOutcome}
    (h : CheckVerdict name passes (.error e : Except HarnessError α) recorded) :
    passes = false ∧ EndsWithFailure name e recorded := by
  cases passes with
  | true =>
    obtain ⟨⟨a, ha⟩, -⟩ := h
    cases ha
  | false =>
    obtain ⟨e', o, he, rfl, hstep, hsuccess, herror⟩ := h
    cases he
    exact ⟨rfl, o, rfl, hstep, hsuccess, herror⟩

end NftProbe.Run
