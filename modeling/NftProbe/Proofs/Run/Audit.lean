import NftProbe.Proofs.Run.Metadata
import NftProbe.Proofs.Run.TransferOutcomes
import NftProbe.Proofs.Abi.Typing

/-!
# What the token audit reports

The audit reads, for every token the run recorded and in the order they were recorded, the
token's owner and then its URI (`auditReads`). A record differs from what the contract reports
in its owner, its URI, or both (`RecordAnswers.differing`, the owner first); a read that failed,
or whose answer is not one value of its kind, shows nothing and so differs too.

When no record differs, the audit records one passed outcome that counts the tokens and lists
their ids in order. Otherwise it records one failed outcome per differing field, a reported
mismatch naming the field, in the order of the records. Either way it returns the number of
failed outcomes it recorded, and none of its outcomes is fatal (`audit_reports_each_difference`).
The reads are made one after the other here; the order of the outcomes follows the records, not
the order in which the answers arrive.
-/

set_option autoImplicit false

namespace NftProbe.Run

open StepM Contract

/-- The client's answers to the two reads of one record: its owner, then its URI. -/
structure RecordAnswers where
  owner : Except ClientError (List Abi.Token)
  uri : Except ClientError (List Abi.Token)

namespace RecordAnswers

/-- The two reads of a record, with the client's answers. -/
def reads (answers : RecordAnswers) (contract : Address) (record : TokenRecord) : List Exchange :=
  [.read contract (ownerOf record.tokenId) answers.owner,
    .read contract (tokenUri record.tokenId) answers.uri]

/-- The fields of a record that its reads do not show as recorded, the owner before the URI. -/
def differing (answers : RecordAnswers) (record : TokenRecord) : List String :=
  (if readValue Abi.Token.asAddress answers.owner = .ok record.owner then []
    else ["owner[" ++ toString record.tokenId ++ "]"]) ++
  (if readValue Abi.Token.asString answers.uri = .ok record.uri then []
    else ["tokenURI[" ++ toString record.tokenId ++ "]"])

end RecordAnswers

/-- The reads of every record, in order. -/
def auditReads (contract : Address) (records : List TokenRecord) (answers : List RecordAnswers) :
    List Exchange :=
  (records.zip answers).flatMap fun pair => pair.2.reads contract pair.1

/-- The differing fields of every record, in order. -/
def auditDiffering (records : List TokenRecord) (answers : List RecordAnswers) : List String :=
  (records.zip answers).flatMap fun pair => pair.2.differing pair.1

/-- `error` is the mismatch of `field`. -/
def MismatchOf (field : String) (error : HarnessError) : Prop :=
  ∃ expected observed, error = .validationMismatch field expected observed

theorem auditReads_append_single {contract : Address} {records : List TokenRecord}
    {answers : List RecordAnswers} (hlength : answers.length = records.length)
    (record : TokenRecord) (answer : RecordAnswers) :
    auditReads contract (records ++ [record]) (answers ++ [answer]) =
      auditReads contract records answers ++ answer.reads contract record := by
  simp [auditReads, List.zip_append hlength.symm]

theorem auditDiffering_append_single {records : List TokenRecord} {answers : List RecordAnswers}
    (hlength : answers.length = records.length) (record : TokenRecord) (answer : RecordAnswers) :
    auditDiffering (records ++ [record]) (answers ++ [answer]) =
      auditDiffering records answers ++ answer.differing record := by
  simp [auditDiffering, List.zip_append hlength.symm]

/-- The mismatches the audit finds in one record are those of its differing fields, in order. -/
theorem auditRecord_differing (record : TokenRecord) (answers : RecordAnswers) :
    List.Forall₂ MismatchOf (answers.differing record)
      (auditRecord record (readValue Abi.Token.asAddress answers.owner)
        (readValue Abi.Token.asString answers.uri)) := by
  unfold RecordAnswers.differing auditRecord
  refine List.rel_append ?_ ?_
  · cases readValue Abi.Token.asAddress answers.owner with
    | error e => exact .cons ⟨_, _, rfl⟩ .nil
    | ok owner =>
      by_cases hsame : owner = record.owner
      · simp [hsame]
      · simpa [hsame] using List.Forall₂.cons (R := MismatchOf) ⟨_, _, rfl⟩ .nil
  · cases readValue Abi.Token.asString answers.uri with
    | error e => exact .cons ⟨_, _, rfl⟩ .nil
    | ok uri =>
      by_cases hsame : uri = record.uri
      · simp [hsame]
      · simpa [hsame] using List.Forall₂.cons (R := MismatchOf) ⟨_, _, rfl⟩ .nil

variable {σ : Type} (c : Client σ)

/-- Every run of the audit, with a contract deployed, reads the owner and the URI of every
record in order and records by what the reads show: one passed outcome with the tokens and their
ids when no record differs, and otherwise one reported mismatch per differing field. It returns
the number of failed outcomes, and changes nothing else of the context. -/
theorem auditTokens_reports (s : Session σ) {d : DeploymentResult}
    (hd : s.context.deployment = some d) :
    Ensures (auditTokens c) (fun r s' => ∃ answers recorded,
      answers.length = s.context.tokenRecords.length ∧
      c.Calls s.client (auditReads d.contractAddress s.context.tokenRecords answers) s'.client ∧
      s'.context = { s.context with outcomes := s.context.outcomes ++ recorded } ∧
      (auditDiffering s.context.tokenRecords answers = [] → ∃ o, recorded = [o] ∧
        o.step = auditStep ∧ o.success = true ∧ o.error = none ∧
        o.details = [("tokens", .nat s.context.tokenRecords.length),
          ("tokenIds", .array (s.context.tokenRecords.map fun record => .nat record.tokenId))]) ∧
      (auditDiffering s.context.tokenRecords answers ≠ [] →
        List.Forall₂ (fun field o => ∃ e, MismatchOf field e ∧ o = .failed auditStep e)
          (auditDiffering s.context.tokenRecords answers) recorded) ∧
      r = .ok (recorded.countP fun o => !o.success)) s := by
  have hcontract : s.context.contract = .ok d.contractAddress := by simp [Context.contract, hd]
  unfold auditTokens
  refine ensures_bind (ensures_context ?_)
  rw [continue_ok, hcontract]
  refine ensures_bind (ensures_context ?_)
  rw [continue_ok]
  refine Ensures.bind (ensures_forIn (fun pre found s' => s'.context = s.context ∧
    ∃ answers, answers.length = pre.length ∧
      c.Calls s.client (auditReads d.contractAddress pre answers) s'.client ∧
      List.Forall₂ MismatchOf (auditDiffering pre answers) found) ?_
    ⟨rfl, [], rfl, rfl, .nil⟩) ?_
  · rintro pre record rest found ⟨c₁, ctx₁⟩ - ⟨hctx, answers, hlength, hcalls, hfound⟩
    dsimp only at hctx hcalls
    subst hctx
    refine Ensures.bind (readSingle_calls c _ _ _ _) ?_
    rintro _ ⟨c₂, ctx₂⟩ ⟨hctx₂, owner, hread₂, rfl⟩
    dsimp only at hctx₂ hread₂
    subst hctx₂
    rw [continue_ok]
    refine Ensures.bind (readSingle_calls c _ _ _ _) ?_
    rintro _ ⟨c₃, ctx₃⟩ ⟨hctx₃, uri, hread₃, rfl⟩
    dsimp only at hctx₃ hread₃
    subst hctx₃
    rw [continue_ok]
    refine ensures_bind (ensures_emit ?_)
    rw [continue_ok]
    refine ensures_pure ⟨_, rfl, rfl, answers ++ [⟨owner, uri⟩], by simp [hlength], ?_, ?_⟩
    · rw [auditReads_append_single hlength]
      exact hcalls.append ⟨c₂, Client.calls_singleton.1 hread₂, hread₃⟩
    · rw [auditDiffering_append_single hlength]
      exact List.rel_append hfound (auditRecord_differing record ⟨owner, uri⟩)
  · rintro _ ⟨c₁, ctx₁⟩ ⟨found, rfl, hctx, answers, hlength, hcalls, hfound⟩
    dsimp only at hctx hcalls
    subst hctx
    rw [continue_ok]
    dsimp only
    split
    · rename_i hempty
      have hnone : auditDiffering s.context.tokenRecords answers = [] := by
        rw [List.isEmpty_iff] at hempty
        subst hempty
        exact List.forall₂_nil_right_iff.1 hfound
      refine ensures_bind (ensures_emit ?_)
      rw [continue_ok]
      refine ensures_bind (ensures_record ?_)
      rw [continue_ok]
      refine ensures_pure ⟨answers, _, hlength, hcalls, rfl, fun _ => ⟨_, rfl, rfl, rfl, rfl, ?_⟩,
        fun h => absurd hnone h, ?_⟩
      · simp [StepOutcome.detail, StepOutcome.passed, Table.insert, Table.contains]
      rw [List.isEmpty_iff] at hempty
      simp [hempty]
    · rename_i hsome
      refine Ensures.bind (ensures_forIn (fun done _ s' => s'.client = c₁ ∧
        s'.context = { s.context with
          outcomes := s.context.outcomes ++ done.map (StepOutcome.failed auditStep) })
        ?_ ⟨rfl, by simp⟩) ?_
      · rintro pre e rest u ⟨c₂, ctx₂⟩ - ⟨hclient, hcontext⟩
        dsimp only at hclient hcontext
        subst hclient hcontext
        refine ensures_bind (ensures_emit ?_)
        rw [continue_ok]
        refine ensures_bind (ensures_record ?_)
        rw [continue_ok]
        exact ensures_pure ⟨_, rfl, rfl, by simp [Context.record]⟩
      · rintro _ ⟨c₂, ctx₂⟩ ⟨u, rfl, hclient, hcontext⟩
        dsimp only at hclient hcontext
        subst hclient hcontext
        rw [continue_ok]
        have hne : auditDiffering s.context.tokenRecords answers ≠ [] := by
          intro hnil
          rw [hnil] at hfound
          cases hfound
          exact hsome rfl
        refine ensures_pure ⟨answers, _, hlength, hcalls, rfl, fun h => absurd h hne,
          fun _ => ?_, ?_⟩
        · refine List.forall₂_map_right_iff.2 (hfound.imp fun field e hmismatch => ?_)
          exact ⟨e, hmismatch, rfl⟩
        · simp [List.countP_map, Function.comp_def]

/-- The audit of a run with a contract deployed, for every client whose operations answer. It
returns, having read the owner and then the URI of every recorded token, in the order the tokens
were recorded. When every read shows the record, it records one passed outcome with the number
of tokens and their ids in order; otherwise one failed outcome per differing field, a reported
mismatch naming `owner[id]` or `tokenURI[id]`, the owner before the URI and the records in order,
where a read that failed or did not decode differs. It returns the number of failed outcomes it
recorded, none of its outcomes is fatal, and nothing else of the context changes. -/
theorem audit_reports_each_difference (htotal : c.Total) (s : Session σ) {d : DeploymentResult}
    (hd : s.context.deployment = some d) :
    Completes (auditTokens c) (fun r s' => ∃ answers recorded,
      answers.length = s.context.tokenRecords.length ∧
      c.Calls s.client (auditReads d.contractAddress s.context.tokenRecords answers) s'.client ∧
      s'.context = { s.context with outcomes := s.context.outcomes ++ recorded } ∧
      (auditDiffering s.context.tokenRecords answers = [] → ∃ o, recorded = [o] ∧
        o.step = auditStep ∧ o.success = true ∧ o.error = none ∧
        o.details = [("tokens", .nat s.context.tokenRecords.length),
          ("tokenIds", .array (s.context.tokenRecords.map fun record => .nat record.tokenId))]) ∧
      (auditDiffering s.context.tokenRecords answers ≠ [] →
        List.Forall₂ (fun field o => ∃ e, MismatchOf field e ∧ o = .failed auditStep e)
          (auditDiffering s.context.tokenRecords answers) recorded) ∧
      r = .ok (recorded.countP fun o => !o.success) ∧
      ∀ o ∈ recorded, o.severity ≠ some .fatal) s := by
  refine ((auditTokens_plain htotal s).and_ensures (auditTokens_reports c s hd)).mono ?_
  rintro r s' ⟨-, answers, recorded, hlength, hcalls, hcontext, hpassed, hfailed, hcount⟩
  refine ⟨answers, recorded, hlength, hcalls, hcontext, hpassed, hfailed, hcount, ?_⟩
  intro o ho
  by_cases hnone : auditDiffering s.context.tokenRecords answers = []
  · obtain ⟨o', rfl, -, -, herror, -⟩ := hpassed hnone
    rw [List.mem_singleton] at ho
    subst ho
    simp [herror]
  · obtain ⟨field, -, e, ⟨expected, observed, rfl⟩, rfl⟩ :=
      Abi.forall₂_exists_of_mem_right (hfailed hnone) ho
    simp [HarnessError.kind, ErrorKind.severity]

/-- A contract deployed at the zero address by the zero account. -/
def zeroDeployment : DeploymentResult :=
  { contractAddress := Address.zero, deployerAddress := Address.zero, adminAddress := Address.zero,
    txHash := Hash32.zero, blockNumber := 0, gasUsed := 0 }

/-- A run with a contract deployed at the zero address and token 1 recorded as owned by the
second account, with the URI `ipfs://1`. -/
def auditedSession : Session Unit :=
  ⟨(), { Context.create "audit" "" .test with
    deployment := some zeroDeployment,
    tokens := [(1, ⟨1, Address.ofNatWrap 2, "ipfs://1"⟩)] }⟩

/-- The cooperative node's contract answers both reads of the recorded token with a number,
which is neither an owner nor a URI. So the audit finds the owner and the URI differing, records
the two mismatches, the owner's first, and returns their count. -/
theorem cooperative_audit_finds_both :
    Completes (auditTokens Client.cooperative) (fun r s' => r = .ok 2 ∧
      ∃ owner uri, s'.context.outcomes = [.failed auditStep owner, .failed auditStep uri] ∧
        MismatchOf "owner[1]" owner ∧ MismatchOf "tokenURI[1]" uri) auditedSession := by
  refine (audit_reports_each_difference Client.cooperative Client.cooperative_total _ rfl).mono ?_
  rintro r s' ⟨answers, recorded, hlength, hcalls, hcontext, -, hfailed, hcount, -⟩
  obtain ⟨⟨ownerAnswer, uriAnswer⟩, rfl⟩ := List.length_eq_one_iff.1 hlength
  obtain ⟨_, howner, _, huri, -⟩ := hcalls
  dsimp only at howner huri
  obtain ⟨rfl, -⟩ := (ends_pure _ _).answers_eq howner
  obtain ⟨rfl, -⟩ := (ends_pure _ _).answers_eq huri
  have hdiffering : auditDiffering auditedSession.context.tokenRecords
      [⟨.ok [.uint (Word.ofU64 0)], .ok [.uint (Word.ofU64 0)]⟩] = ["owner[1]", "tokenURI[1]"] := by
    decide
  rw [hdiffering] at hfailed
  rcases hfailed (by decide) with _ | ⟨⟨owner, howner, rfl⟩, _ | ⟨⟨uri, huri, rfl⟩, _ | _⟩⟩
  refine ⟨by simp [hcount], owner, uri, ?_, howner, huri⟩
  rw [hcontext]
  rfl

end NftProbe.Run
