import NftProbe.Proofs.Run.Endings

/-!
# The changes a run makes to the chain

A test run changes the chain at most four times, in this order: it creates the contract from the
deployer, who is also its admin; it mints the single token to the first user and the batch to
both users and the deployer, both from the deployer; and it transfers the single token, sent by
the first user, from its recorded owner to the second user (`testPlan`).

Which of them it makes is decided by the gates, as the run's trace says: the creation comes only
after the check before it passed, the mints and the transfer only once the contract was created
and the check after it passed, the transfer only when the single mint gave a token, and after a
failed check the run asks the chain nothing more. A client that keeps its calls
(`Client.transcribed`) shows what a run really asked; and every step that changes the chain
first asks whether the phase allows it, so in a phase that does not it leaves the client alone.
-/

set_option autoImplicit false

namespace NftProbe.Run

open StepM Contract

/-- The changes to the chain a test run makes when it makes them all, in order. -/
def testPlan (artifact : Artifact) (demo : DemoMints)
    (deployer user1 user2 contract owner : Address) (tokenId : Nat) : List Mutation :=
  [.deploy deployer artifact.bytecode (constructorArgs deployer),
    .send deployer contract (safeMint user1 demo.singleUri),
    .send deployer contract (batchMint [user1, user2, deployer] demo.batchUris),
    .send user1 contract (transferFrom owner user2 tokenId)]

/-- The plain reads between the milestones change nothing, so the changes a run asked for are
those among its milestones. -/
theorem filterMap_mutation_filter (calls : List Exchange) :
    (calls.filter Exchange.isMilestone).filterMap Exchange.mutation? =
      calls.filterMap Exchange.mutation? := by
  induction calls with
  | nil => rfl
  | cons call rest ih =>
    cases hcall : call.isMilestone with
    | true => rw [List.filter_cons_of_pos hcall, List.filterMap_cons, List.filterMap_cons, ih]
    | false =>
      rw [List.filter_cons_of_neg (by simp [hcall]),
        List.filterMap_cons_none (Exchange.mutation?_eq_none_of_isMilestone hcall), ih]

@[simp] theorem mutation?_chainReads (contract : Option Address)
    (snapshot : Except ClientError BlockSnapshot) (view : Except ClientError (List Abi.Token)) :
    (chainReads contract snapshot view).filterMap Exchange.mutation? = [] := by
  cases contract <;> simp [chainReads, Exchange.mutation?]

/-- The deployment stretch changes the chain at most by creating the contract from the
deployer. -/
theorem DeployTrace.mutations_sublist {expected : Nat} {artifact : Artifact} {deployer : Address}
    {ms : List Exchange} {result : Except Stop Address}
    (h : DeployTrace expected artifact deployer ms result) :
    (ms.filterMap Exchange.mutation?).Sublist
      [.deploy deployer artifact.bytecode (constructorArgs deployer)] := by
  cases h <;> simp [deployCall, Exchange.mutation?]

/-- After the deployment a test run sends the single mint, then the batch when its lists pass,
then the transfer of the single token when there is one. -/
theorem exerciseSends_mutations_sublist (demo : DemoMints) (contract deployer user1 user2 : Address)
    (single batch transfer : Except ClientError TxOutcome) :
    ∃ owner tokenId,
      ((exerciseSends demo contract deployer user1 user2 single batch transfer).filterMap
        Exchange.mutation?).Sublist
        [.send deployer contract (safeMint user1 demo.singleUri),
          .send deployer contract (batchMint [user1, user2, deployer] demo.batchUris),
          .send user1 contract (transferFrom owner user2 tokenId)] := by
  have htransfer : ∃ owner tokenId,
      ((singleTransferSends (mintedTokens demo contract deployer user1 user2 single batch) contract
        (singleId single contract user1) user1 user2 transfer).filterMap Exchange.mutation?).Sublist
        [.send user1 contract (transferFrom owner user2 tokenId)] := by
    cases hid : singleId single contract user1 with
    | none => exact ⟨user1, 0, by simp [singleTransferSends]⟩
    | some tokenId =>
      cases htoken :
          (mintedTokens demo contract deployer user1 user2 single batch).get? tokenId with
      | none => exact ⟨user1, tokenId, by simp [singleTransferSends, transferSends, htoken]⟩
      | some token =>
        exact ⟨token.owner, tokenId,
          by simp [singleTransferSends, transferSends, htoken, Exchange.mutation?]⟩
  obtain ⟨owner, tokenId, htransfer⟩ := htransfer
  have hbatch : ((batchSends deployer contract [user1, user2, deployer] demo.batchUris
      batch).filterMap Exchange.mutation?).Sublist
      [.send deployer contract (batchMint [user1, user2, deployer] demo.batchUris)] := by
    unfold batchSends
    split <;> simp [Exchange.mutation?]
  refine ⟨owner, tokenId, ?_⟩
  simp only [exerciseSends, List.cons_append, List.filterMap_cons, Exchange.mutation?,
    List.filterMap_append]
  exact (hbatch.append htransfer).cons_cons _

/-- A test run whose chain was verified changes the chain in its deployment stretch and in what
it sends after, and nowhere else. -/
private theorem verified_mutations {signers : Except ClientError (List Address)}
    {ms sent : List Exchange} {contract : Address} {snapshot : Except ClientError BlockSnapshot}
    {view : Except ClientError (List Abi.Token)} :
    (.signers signers :: ms ++ sent ++ chainReads (some contract) snapshot view).filterMap
      Exchange.mutation? =
      ms.filterMap Exchange.mutation? ++ sent.filterMap Exchange.mutation? := by
  rw [List.cons_append, List.cons_append, List.filterMap_cons_none rfl, List.filterMap_append,
    List.filterMap_append, mutation?_chainReads, List.append_nil]

/-- Every change a test run makes to the chain is one of its plan, in the plan's order. -/
theorem TestTrace.mutations_sublist {expected : Nat} {demo : DemoMints} {artifact : Artifact}
    {ms : List Exchange} {ending : Ending} (h : TestTrace expected demo artifact ms ending) :
    ∃ deployer user1 user2 contract owner tokenId,
      (ms.filterMap Exchange.mutation?).Sublist
        (testPlan artifact demo deployer user1 user2 contract owner tokenId) := by
  cases h with
  | refused => exact ⟨default, default, default, default, default, 0, List.nil_sublist _⟩
  | @stopped deployer user1 user2 rest ms stop hdeploy =>
    refine ⟨deployer, user1, user2, default, default, 0, ?_⟩
    exact hdeploy.mutations_sublist.trans (List.singleton_sublist.2 (by simp [testPlan]))
  | @completed deployer user1 user2 contract rest ms single batch transfer snapshot view hdeploy =>
    obtain ⟨owner, tokenId, hexercise⟩ :=
      exerciseSends_mutations_sublist demo contract deployer user1 user2 single batch transfer
    refine ⟨deployer, user1, user2, contract, owner, tokenId, ?_⟩
    rw [verified_mutations]
    exact hdeploy.mutations_sublist.append hexercise
  | @lastRejected deployer user1 user2 contract rest ms single batch transfer snapshot view
      hdeploy =>
    obtain ⟨owner, tokenId, hexercise⟩ :=
      exerciseSends_mutations_sublist demo contract deployer user1 user2 single batch transfer
    refine ⟨deployer, user1, user2, contract, owner, tokenId, ?_⟩
    rw [verified_mutations]
    exact hdeploy.mutations_sublist.append hexercise

/-- For every client, the changes a test run makes to the chain, as the transcript of the client
shows them, are among the test plan's, in its order, and gated as the run's trace says; and
each step that changes the chain, started in a phase that does not allow changes, leaves the
client as it was and fails. -/
theorem testRun_changes_gated {σ : Type} (c : Client σ) (expectations : Expectations)
    (demo : DemoMints) :
    (∀ {artifact : Artifact} {runId startedAt : String} {a b : σ × List Exchange}
        {context : Context} {log log' : Array LogRecord},
      ((⟨c.transcribed, expectations, demo⟩ : Orchestrator (σ × List Exchange)).runWorkflow .test
        runId startedAt artifact a).run log = .ok ((b, context), log') →
      ∃ calls ms ending, b.2 = a.2 ++ calls ∧ c.Calls a.1 calls b.1 ∧
        calls.filter Exchange.isMilestone = ms ∧
        TestTrace expectations.chainId demo artifact ms ending ∧
        ∃ deployer user1 user2 contract owner tokenId,
          (calls.filterMap Exchange.mutation?).Sublist
            (testPlan artifact demo deployer user1 user2 contract owner tokenId)) ∧
    ∀ s : Session (σ × List Exchange), s.context.phase.allowsMutations = false →
      (∀ artifact deployer admin, Ensures (deploy c.transcribed artifact deployer admin)
        (fun r s' => s'.client = s.client ∧ ∃ e, r = .error e) s) ∧
      (∀ minter recipient uri, Ensures (mintOne c.transcribed minter recipient uri)
        (fun r s' => s'.client = s.client ∧ ∃ e, r = .error e) s) ∧
      (∀ minter recipients uris, Ensures (mintBatch c.transcribed minter recipients uris)
        (fun r s' => s'.client = s.client ∧ ∃ e, r = .error e) s) ∧
      (∀ tokenId sender recipient, Ensures (transferToken c.transcribed tokenId sender recipient)
        (fun r s' => s'.client = s.client ∧ ∃ e, r = .error e) s) := by
  refine ⟨fun hrun => ?_, fun s hhalted => ⟨fun artifact deployer admin => ?_,
    fun minter recipient uri => mintOne_halted _ minter recipient uri s hhalted,
    fun minter recipients uris => mintBatch_halted _ minter recipients uris s hhalted,
    fun tokenId sender recipient => transferToken_halted _ tokenId sender recipient s hhalted⟩⟩
  · obtain ⟨ms, ending, htrace, hreach, -⟩ := Orchestrator.run_spec _ hrun
    obtain ⟨calls, hinner, htranscript, hms⟩ := Client.transcribed_reaches hreach
    obtain ⟨deployer, user1, user2, contract, owner, tokenId, hplan⟩ :=
      TestTrace.mutations_sublist htrace
    refine ⟨calls, ms, ending, htranscript, hinner, hms, htrace, deployer, user1, user2, contract,
      owner, tokenId, ?_⟩
    rw [← filterMap_mutation_filter, hms]
    exact hplan
  · exact (deploy_halted _ artifact deployer admin s hhalted).mono fun r s' ⟨hclient, hr⟩ =>
      ⟨hclient, _, hr⟩

/-- The session a run starts from: idle, so it may not change the chain. -/
def idleSession {σ : Type} (client : σ) : Session σ :=
  { client, context := Context.create "idle" "" .test }

/-- The orchestrator of the cooperative node with a transcript that keeps its calls, with the
default expectations and mints. -/
def Orchestrator.cooperativeTranscribed : Orchestrator (Unit × List Exchange) :=
  { client := Client.cooperative.transcribed }

namespace Orchestrator

/-- Against the cooperative node, with a transcript that keeps its calls, the test run makes
every change of the test plan, in the plan's order; and the single mint, started before the run
left `idle`, leaves the client alone although the node would include it. The run compares its
mint logs with the transfer topic, a hash only the kernel evaluates. -/
theorem cooperative_changes_gated :
    (∃ b context log',
      (cooperativeTranscribed.runWorkflow .test "run" "" ⟨"", [0]⟩ ((), [])).run #[] =
        .ok ((b, context), log') ∧
      ∃ deployer user1 user2 contract owner tokenId,
        b.2.filterMap Exchange.mutation? =
          testPlan ⟨"", [0]⟩ {} deployer user1 user2 contract owner tokenId) ∧
    Ensures (mintOne Client.cooperative.transcribed Address.zero Address.zero "")
      (fun r s' => s'.client = (idleSession ((), [])).client ∧ ∃ e, r = .error e)
      (idleSession ((), [])) := by
  have hcount :
      ((cooperativeTranscribed.runWorkflow .test "run" "" ⟨"", [0]⟩ ((), [])).run #[]).map
      (fun result => (result.1.1.2.filterMap Exchange.mutation?).length) = .ok 4 := by
    decide +kernel
  obtain ⟨⟨⟨b, context⟩, log'⟩, hrun, hfour⟩ := exists_ok_of_map_eq_ok hcount
  have hgated := testRun_changes_gated Client.cooperative {} {}
  obtain ⟨calls, -, -, htranscript, -, -, -, deployer, user1, user2, contract, owner, tokenId,
    hplan⟩ := hgated.1 hrun
  have hcalls : b.2 = calls := by simpa using htranscript
  refine ⟨⟨b, context, log', hrun, deployer, user1, user2, contract, owner, tokenId, ?_⟩,
    (hgated.2 (idleSession ((), [])) rfl).2.1 Address.zero Address.zero ""⟩
  rw [hcalls] at hfour ⊢
  exact hplan.eq_of_length (by rw [hfour]; rfl)

end Orchestrator

end NftProbe.Run
