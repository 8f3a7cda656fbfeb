import NftProbe.Proofs.Run.Validation
import NftProbe.Proofs.Run.Totality

/-!
# What the metadata validation records

The validation reads `getContractInfo()` once (`readInfo_calls`). When the read answers and its
answer decodes, the step compares the fields in a fixed order (`metadataChecks`): the name, the
symbol, the version, the chain name and the chain id, then the supply, but only once the
baseline supply is known, and against the baseline plus the tokens recorded. Numbers are
compared as decimal text. Each field gives one outcome (`FieldCheck.outcome`), passed exactly
when the two texts agree, a reported mismatch naming the field otherwise, and a difference
never stops the fields after it: the step returns the metadata it read. A read that fails, or
whose answer does not decode, gives one failed outcome of the step itself, and the step
returns that error.

`validateMetadata_records` states this of every run of the step, whatever the client answers.
`validateMetadata_completes` adds that the step returns when the read answers and the expected
supply fits 64 bits: the sum of the baseline and the tokens recorded is the one place where the
step can halt. `Completes.and_ensures` puts the two together.
-/

set_option autoImplicit false

namespace NftProbe.Run

open StepM Contract

namespace StepM

variable {σ α : Type} {s : Session σ}

/-- A step that completes, and whose every run satisfies `P`, completes satisfying both. -/
theorem Completes.and_ensures {step : StepM σ α} {Q P : Except HarnessError α → Session σ → Prop}
    (hc : Completes step Q s) (he : Ensures step P s) :
    Completes step (fun r s' => Q r s' ∧ P r s') s := by
  intro log
  obtain ⟨r, s', log', hrun, hq⟩ := hc log
  exact ⟨r, s', log', hrun, hq, he hrun⟩

/-- A step none of whose runs returns halts, from every log. -/
theorem Ensures.halts {step : StepM σ α} (h : Ensures step (fun _ _ => False) s)
    (log : Array LogRecord) : ∃ overflow, exec step s log = .error overflow := by
  rcases hrun : exec step s log with overflow | ⟨⟨r, s'⟩, log'⟩
  · exact ⟨overflow, rfl⟩
  · exact (h hrun).elim

end StepM

/-! ### The compared fields -/

/-- One field the validation compares, with the text it expects and the text it read. -/
structure FieldCheck where
  field : String
  expected : String
  observed : String
deriving DecidableEq, Repr

namespace FieldCheck

/-- The name of the field's outcome. -/
def step (check : FieldCheck) : String :=
  validationStep ++ "." ++ check.field

/-- The outcome of a compared field: passed with the value read, or a mismatch naming the
field and both texts. -/
def outcome (check : FieldCheck) : StepOutcome :=
  if check.expected = check.observed then
    (StepOutcome.passed check.step).detail "value" (.string check.observed)
  else .failed check.step (.validationMismatch check.field check.expected check.observed)

@[simp] theorem outcome_step (check : FieldCheck) : check.outcome.step = check.step := by
  unfold outcome
  split <;> simp

@[simp] theorem outcome_success (check : FieldCheck) :
    check.outcome.success = true ↔ check.expected = check.observed := by
  unfold outcome
  split <;> simp_all

/-- A field that differs is a reported mismatch; so no field's outcome is fatal. -/
theorem outcome_severity (check : FieldCheck) : check.outcome.severity ≠ some .fatal := by
  unfold outcome
  split
  · simp
  · simp [HarnessError.kind, ErrorKind.severity]

end FieldCheck

/-- The fields the validation compares, in order: name, symbol, version, chain name and chain
id, and the supply when the supply the contract should report is known. -/
def metadataChecks (expectations : Expectations) (info : ContractInfo) (supply : Option Nat) :
    List FieldCheck :=
  [⟨"name", expectations.name, info.name⟩, ⟨"symbol", expectations.symbol, info.symbol⟩,
    ⟨"version", expectations.version, info.version⟩,
    ⟨"chainName", expectations.chainName, info.chainName⟩,
    ⟨"chainId", toString expectations.chainId, toString info.chainId⟩] ++
  supply.toList.map fun expected => ⟨"totalSupply", toString expected, toString info.totalSupply⟩

theorem compareField_run_eq (check : FieldCheck) (log : Array LogRecord) :
    ∃ log', (compareField check.field check.expected check.observed).run log =
      .ok (check.outcome, log') := by
  unfold compareField FieldCheck.outcome FieldCheck.step
  by_cases hsame : check.expected = check.observed
  · simp only [hsame, if_true, logged_pure_run]
    exact ⟨_, rfl⟩
  · simp only [hsame, if_false, emit_bind_run, logged_pure_run]
    exact ⟨_, rfl⟩

/-! ### The read -/

/-- What a read of the metadata shows: the metadata its answer decodes to, or why there is
none. -/
def metadataOf : Except ClientError (List Abi.Token) → Except HarnessError ContractInfo
  | .ok tokens => (ContractInfo.ofTokens tokens).mapError .abi
  | .error error => .error (.client error)

/-- The supply a context expects is the baseline plus the tokens recorded, once the baseline is
known, whenever the sum is computed. -/
theorem Context.expectedSupply_eq_ok {context : Context} {supply : Option Nat}
    (h : context.expectedSupply = .ok supply) :
    supply = context.baselineSupply.map (· + context.tokenCount) := by
  unfold Context.expectedSupply at h
  cases hbaseline : context.baselineSupply with
  | none =>
    rw [hbaseline] at h
    cases h
    rfl
  | some baseline =>
    rw [hbaseline] at h
    by_cases hfits : baseline + context.tokenCount ≤ u64Max
    · simp only [U64.checkedAdd, hfits, if_true, Except.map, Except.ok.injEq] at h
      rw [← h]
      rfl
    · simp [U64.checkedAdd, hfits, Except.map] at h

/-- The expected supply overflows when the baseline plus the tokens recorded passes 64 bits. -/
theorem Context.expectedSupply_overflows {context : Context} {baseline : Nat}
    (hbaseline : context.baselineSupply = some baseline)
    (hover : u64Max < baseline + context.tokenCount) : context.expectedSupply = .error .add := by
  simp [Context.expectedSupply, hbaseline, U64.checkedAdd, Nat.not_le.2 hover, Except.map]

/-- The expected supply is computed when the baseline plus the tokens recorded fits 64 bits. -/
theorem Context.expectedSupply_ok {context : Context}
    (hfits : ∀ baseline, context.baselineSupply = some baseline →
      baseline + context.tokenCount ≤ u64Max) :
    context.expectedSupply = .ok (context.baselineSupply.map (· + context.tokenCount)) := by
  unfold Context.expectedSupply
  cases hbaseline : context.baselineSupply with
  | none => rfl
  | some baseline =>
    simp [U64.checkedAdd, hfits baseline hbaseline, Except.map]

variable {σ : Type} (c : Client σ)

/-- The read makes one call, the read of the metadata from the deployed contract, leaves the
context alone, and returns what its answer shows. -/
theorem readInfo_calls (s : Session σ) {d : DeploymentResult}
    (hd : s.context.deployment = some d) :
    Ensures (readInfo c) (fun r s' => s'.context = s.context ∧ ∃ answer,
      c.Calls s.client [.read d.contractAddress getContractInfo answer] s'.client ∧
        r = metadataOf answer) s := by
  unfold readInfo
  refine ensures_bind (ensures_contract ?_)
  simp only [Context.contract, hd, continue_ok]
  refine ensures_bind (ensures_call fun answer c₁ hanswer => ?_)
  rw [continue_ok]
  cases answer with
  | error err => exact ensures_throw ⟨rfl, _, Client.calls_singleton.2 hanswer, rfl⟩
  | ok tokens => exact ensures_fromResult ⟨rfl, _, Client.calls_singleton.2 hanswer, rfl⟩

/-! ### The step -/

/-- Every run of the validation, with a contract deployed, makes the one read and then records
by its answer: one outcome per compared field, in the order of `metadataChecks`, returning the
metadata read; or, when the read shows no metadata, one failed outcome of the step, returning the
error. Nothing else of the context changes. -/
theorem validateMetadata_records (expectations : Expectations) (s : Session σ)
    {d : DeploymentResult} (hd : s.context.deployment = some d) :
    Ensures (validateMetadata c expectations) (fun r s' => ∃ answer,
      c.Calls s.client [.read d.contractAddress getContractInfo answer] s'.client ∧
      (∀ info, metadataOf answer = .ok info → r = .ok info ∧
        s'.context = { s.context with
          outcomes := s.context.outcomes ++ (metadataChecks expectations info
            (s.context.baselineSupply.map (· + s.context.tokenCount))).map FieldCheck.outcome }) ∧
      (∀ e, metadataOf answer = .error e → r = .error e ∧
        s'.context = s.context.record (.failed validationStep e))) s := by
  unfold validateMetadata
  refine ensures_bind (ensures_tryCatch_of (readInfo_calls c s hd) ?_)
  rintro r ⟨c₁, ctx₁⟩ ⟨hctx, answer, hcalls, rfl⟩
  dsimp only at hctx hcalls
  subst hctx
  cases hinfo : metadataOf answer with
  | error e =>
    rw [handle_error]
    refine ensures_bind (ensures_emit ?_)
    rw [continue_ok]
    refine ensures_bind (ensures_record ?_)
    rw [continue_ok]
    refine ensures_throw ?_
    rw [continue_error]
    refine ⟨answer, hcalls, fun info h => ?_, fun e' h => ?_⟩
    · rw [hinfo] at h
      cases h
    · rw [hinfo] at h
      cases h
      exact ⟨rfl, rfl⟩
  | ok info =>
    rw [handle_ok, continue_ok]
    iterate 7
      refine ensures_bind (ensures_emit ?_)
      rw [continue_ok]
    refine ensures_bind (ensures_context ?_)
    rw [continue_ok]
    refine ensures_bind (ensures_checked fun supply hsupply => ?_)
    rw [continue_ok]
    have hexpected := Context.expectedSupply_eq_ok hsupply
    refine Ensures.bind (ensures_forIn (fun pre _ s' => s'.client = c₁ ∧
      s'.context = { s.context with
        outcomes := s.context.outcomes ++
          pre.map fun check => FieldCheck.outcome ⟨check.1, check.2.1, check.2.2⟩ })
      ?_ ⟨rfl, by simp⟩) ?_
    · rintro pre ⟨field, expected, observed⟩ rest u ⟨c₂, ctx₂⟩ - ⟨hclient, hcontext⟩
      dsimp only at hclient hcontext
      subst hclient hcontext
      refine ensures_bind (ensures_liftM fun log o log' hrun => ?_)
      rw [continue_ok]
      obtain ⟨log'', hcompare⟩ := compareField_run_eq ⟨field, expected, observed⟩ log
      rw [hcompare] at hrun
      cases hrun
      refine ensures_bind (ensures_record ?_)
      rw [continue_ok]
      exact ensures_pure ⟨_, rfl, rfl, by simp [Context.record]⟩
    · rintro _ ⟨c₂, ctx₂⟩ ⟨u, rfl, hclient, hcontext⟩
      dsimp only at hclient hcontext
      subst hclient hcontext
      rw [continue_ok]
      refine ensures_pure ⟨answer, hcalls, fun info' h => ?_, fun e h => ?_⟩
      · rw [hinfo] at h
        cases h
        refine ⟨rfl, ?_⟩
        rw [← hexpected]
        cases supply <;> rfl
      · rw [hinfo] at h
        cases h

/-- The read answers when the client's read of the metadata does, and leaves the context alone. -/
theorem readInfo_completes (s : Session σ) {d : DeploymentResult}
    (hd : s.context.deployment = some d)
    (hread : (c.read d.contractAddress getContractInfo).Total) :
    Completes (readInfo c) (fun _ s' => s'.context = s.context) s := by
  unfold readInfo
  refine completes_bind (completes_contract ?_)
  simp only [Context.contract, hd, proceeds_ok]
  refine completes_bind (completes_call hread fun answer c₁ _ => ?_)
  rw [proceeds_ok]
  cases answer with
  | error err => exact completes_throw rfl
  | ok tokens => exact completes_fromResult rfl

/-- The validation returns when its read answers and the supply the context expects fits
64 bits. -/
theorem validateMetadata_completes (expectations : Expectations) (s : Session σ)
    {d : DeploymentResult} (hd : s.context.deployment = some d)
    (hread : (c.read d.contractAddress getContractInfo).Total)
    (hfits : ∀ baseline, s.context.baselineSupply = some baseline →
      baseline + s.context.tokenCount ≤ u64Max) :
    Completes (validateMetadata c expectations) (fun _ _ => True) s := by
  unfold validateMetadata
  refine completes_bind (completes_tryCatch ((readInfo_completes c s hd hread).mono ?_))
  rintro (e | info) s₁ hctx
  · rw [recovers_error]
    exact completes_bind (completes_emit (completes_bind (completes_record (completes_throw trivial))))
  · rw [recovers_ok, proceeds_ok]
    iterate 7
      refine completes_bind (completes_emit ?_)
      rw [proceeds_ok]
    refine completes_bind (completes_context ?_)
    rw [proceeds_ok]
    have hsupply : s₁.context.expectedSupply =
        .ok (s₁.context.baselineSupply.map (· + s₁.context.tokenCount)) := by
      rw [hctx]
      exact Context.expectedSupply_ok hfits
    refine completes_bind (completes_checked hsupply ?_)
    rw [proceeds_ok]
    refine Completes.bind ((plain_forIn (fun check _ => ?_) _) s₁) ?_
    · obtain ⟨field, expected, observed⟩ := check
      exact plain_bind (plain_liftM (compareField_answers _ _ _)) fun _ =>
        plain_bind (plain_record _) fun _ => plain_pure _
    · rintro (e | u) s₂ -
      · trivial
      · exact completes_pure trivial

/-- The validation halts before comparing any field when its read answers metadata that decodes
and the supply the context expects passes 64 bits: no run of it returns. -/
theorem validateMetadata_halts (expectations : Expectations) (s : Session σ)
    {d : DeploymentResult} (hd : s.context.deployment = some d) {tokens : List Abi.Token}
    {info : ContractInfo}
    (hanswer : ∀ answer client', c.Answers s.client
      (.read d.contractAddress getContractInfo answer) client' → answer = .ok tokens)
    (hinfo : ContractInfo.ofTokens tokens = .ok info) {overflow : Overflow}
    (hoverflow : s.context.expectedSupply = .error overflow) :
    Ensures (validateMetadata c expectations) (fun _ _ => False) s := by
  unfold validateMetadata
  refine ensures_bind (ensures_tryCatch_of (readInfo_calls c s hd) ?_)
  rintro r ⟨c₁, ctx₁⟩ ⟨hctx, answer, hcalls, rfl⟩
  dsimp only at hctx hcalls
  subst hctx
  have hshows : metadataOf answer = .ok info := by
    rw [hanswer answer c₁ (Client.calls_singleton.1 hcalls)]
    simp [metadataOf, hinfo, Except.mapError]
  rw [hshows, handle_ok, continue_ok]
  iterate 7
    refine ensures_bind (ensures_emit ?_)
    rw [continue_ok]
  refine ensures_bind (ensures_context ?_)
  rw [continue_ok]
  refine ensures_bind (ensures_checked fun supply hsupply => ?_)
  rw [hoverflow] at hsupply
  cases hsupply

end NftProbe.Run
