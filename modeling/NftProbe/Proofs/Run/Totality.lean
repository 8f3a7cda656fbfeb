import NftProbe.Proofs.Client.Ends
import NftProbe.Proofs.Run.Completes
import NftProbe.Proofs.Run.Endings
import NftProbe.Proofs.Sim.Minting

/-!
# Runs that return a report

A run halts only where it adds without a check: at the supply it expects, the baseline supply
plus the tokens recorded, and at the contiguity check of a batch, a token id plus one. Every
other step completes whatever the client answers, as long as the client's own operations answer
(`Client.Total`). Those steps keep the two numbers the supply check reads, the count of recorded
tokens and the baseline supply (`Context.SupplyKept`): such a step is `Plain`, and plainness is
built up from the steps' parts like a type.

The test workflow records at most four tokens, one from the single mint and three from the
batch, and reads its baseline before the first of them. `Context.Room room` counts that down:
at most `4 - room` tokens are recorded, and a baseline, once read, has room for all four. A step
that takes the room from `room` to `room'` is one that `Fits room room'`. When the supply the
client reports leaves that room and no mint it reports carries the largest token id
(`Client.Moderate`), no addition overflows, and the run returns its report
(`runs_return_report`). The deploy workflow never reads a baseline, so it returns for every
client whose operations answer.

The node of `Client.saturated` answers every operation but reports the largest supply there is:
its deploy run returns and its test run halts (`saturated_test_run_halts`). The same node with a
contract that reports no supply (`Client.cooperative`) leaves room for every addition, and both
of its runs return (`cooperative_runs_return`).
-/

set_option autoImplicit false

namespace NftProbe

/-- A client every operation of which answers from every state: it never halts. -/
structure Client.Total {σ : Type} (client : Client σ) : Prop where
  chainId : client.chainId.Total
  signers : client.signers.Total
  balance : ∀ account, (client.balance account).Total
  snapshot : client.snapshot.Total
  deploy : ∀ source bytecode args, (client.deploy source bytecode args).Total
  send : ∀ source target call, (client.send source target call).Total
  read : ∀ target call, (client.read target call).Total

/-- A client whose reports leave room for the additions of a test run: every supply its contract
reports has room for four more tokens, and no mint event it reports carries the largest token
id. -/
structure Client.Moderate {σ : Type} (client : Client σ) : Prop where
  supply : ∀ a a' contract tokens supply,
    (client.read contract Contract.totalSupply).Answers a (.ok tokens) a' →
    (Contract.single tokens >>= Abi.Token.asU64) = .ok supply → supply + 4 ≤ u64Max
  mintIds : ∀ a a' minter contract mint answer events,
    (client.send minter contract mint).Answers a answer a' →
    Run.mintEvents answer contract = some events → ∀ event ∈ events, event.tokenId < u64Max

/-- Inserting into a table adds at most one entry. -/
theorem Table.length_insert_le {κ ν : Type} [BEq κ] (table : Table κ ν) (key : κ) (value : ν) :
    (table.insert key value).length ≤ table.length + 1 := by
  unfold Table.insert
  split <;> simp

end NftProbe

namespace NftProbe.Run

open StepM Contract Abi

namespace Context

/-- The number of recorded tokens and the baseline supply, which the supply checks read, are as
they were. -/
structure SupplyKept (before after : Context) : Prop where
  tokenCount : after.tokenCount = before.tokenCount
  baseline : after.baselineSupply = before.baselineSupply

theorem SupplyKept.refl (c : Context) : c.SupplyKept c :=
  ⟨rfl, rfl⟩

theorem SupplyKept.trans {c₁ c₂ c₃ : Context} (h₁ : c₁.SupplyKept c₂) (h₂ : c₂.SupplyKept c₃) :
    c₁.SupplyKept c₃ :=
  ⟨h₂.tokenCount.trans h₁.tokenCount, h₂.baseline.trans h₁.baseline⟩

theorem supplyKept_transition {c c' : Context} {next : Phase} (h : c.transition next = .ok c') :
    c.SupplyKept c' := by
  unfold transition at h
  split at h
  · cases h
    exact ⟨rfl, rfl⟩
  · cases h

theorem supplyKept_setOwner (c : Context) (tokenId : Nat) (owner : Address) :
    c.SupplyKept (c.setOwner tokenId owner) :=
  ⟨by simp [setOwner, tokenCount], rfl⟩

theorem supplyKept_setDeployment {c c' : Context} {result : DeploymentResult}
    (h : c.setDeployment result = .ok c') : c.SupplyKept c' := by
  unfold setDeployment at h
  split at h
  · cases h
  · cases h
    exact ⟨rfl, rfl⟩

/-- Room for `room` more recorded tokens: at most `4 - room` are recorded, and a baseline supply,
once read, leaves room for four tokens above it. -/
structure Room (c : Context) (room : Nat) : Prop where
  count : c.tokenCount + room ≤ 4
  baseline : ∀ b, c.baselineSupply = some b → b + 4 ≤ u64Max

variable {c c' : Context} {room room' : Nat}

theorem room_create (runId startedAt : String) (workflow : Workflow) :
    (create runId startedAt workflow).Room 4 :=
  ⟨by simp [create, tokenCount], by simp [create]⟩

theorem Room.mono (h : c.Room room) (hle : room' ≤ room) : c.Room room' :=
  ⟨by have := h.count; omega, h.baseline⟩

theorem Room.of_kept (h : c.Room room) (hkept : c.SupplyKept c') : c'.Room room :=
  ⟨by rw [hkept.tokenCount]; exact h.count, by rw [hkept.baseline]; exact h.baseline⟩

theorem Room.addToken (h : c.Room (room + 1)) (record : TokenRecord) :
    (c.addToken record).Room room := by
  refine ⟨?_, h.baseline⟩
  have hinsert := Table.length_insert_le c.tokens record.tokenId record
  have hcount := h.count
  simp only [Context.addToken, tokenCount] at hinsert hcount ⊢
  omega

theorem Room.setBaselineSupply (h : c.Room room) {supply : Nat} (hsupply : supply + 4 ≤ u64Max) :
    (c.setBaselineSupply supply).Room room :=
  ⟨h.count, fun b hb => by cases hb; exact hsupply⟩

/-- While there is room, the expected supply is computed without overflow. -/
theorem Room.expectedSupply (h : c.Room room) : ∃ v, c.expectedSupply = .ok v := by
  unfold Context.expectedSupply
  cases hbaseline : c.baselineSupply with
  | none => exact ⟨none, rfl⟩
  | some b =>
    have hfits : b + c.tokenCount ≤ u64Max := by
      have := h.baseline b hbaseline
      have := h.count
      omega
    exact ⟨some (b + c.tokenCount), by simp [U64.checkedAdd, hfits, Except.map]⟩

end Context

namespace StepM

variable {σ α β : Type}

/-- The step completes from every session and keeps the count of recorded tokens and the
baseline supply. -/
def Plain (step : StepM σ α) : Prop :=
  ∀ s, Completes step (fun _ s' => s.context.SupplyKept s'.context) s

theorem plain_pure (a : α) : Plain (pure a : StepM σ α) :=
  fun _ => completes_pure (Context.SupplyKept.refl _)

theorem plain_throw (e : HarnessError) : Plain (throw e : StepM σ α) :=
  fun _ => completes_throw (Context.SupplyKept.refl _)

theorem plain_bind {p : StepM σ α} {f : α → StepM σ β} (hp : Plain p) (hf : ∀ a, Plain (f a)) :
    Plain (p >>= f) := by
  intro s
  refine (hp s).bind ?_
  rintro (e | a) s₁ hkept
  · exact hkept
  · exact (hf a s₁).mono fun _ s' hkept' => hkept.trans hkept'

/-- A step that raises at once never runs what follows. -/
theorem plain_throw_bind {e : HarnessError} {f : α → StepM σ β} : Plain (throw e >>= f) :=
  fun s log => ⟨.error e, s, log, by rw [exec_bind, exec_throw], Context.SupplyKept.refl _⟩

theorem plain_map {p : StepM σ α} {f : α → β} (hp : Plain p) : Plain (f <$> p) :=
  fun s => completes_map ((hp s).mono fun _ _ hkept => hkept)

theorem plain_tryCatch {p : StepM σ α} {handler : HarnessError → StepM σ α} (hp : Plain p)
    (hh : ∀ e, Plain (handler e)) : Plain (tryCatch p handler) := by
  intro s
  refine (hp s).tryCatch ?_
  rintro (e | a) s₁ hkept
  · exact (hh e s₁).mono fun _ s' hkept' => hkept.trans hkept'
  · exact hkept

theorem plain_context : Plain (context : StepM σ Context) :=
  fun _ => completes_context (Context.SupplyKept.refl _)

theorem plain_fromResult (r : Except HarnessError α) : Plain (fromResult r : StepM σ α) :=
  fun _ => completes_fromResult (Context.SupplyKept.refl _)

/-- A log computation that never halts. -/
theorem plain_liftM {x : Logged α} (hx : ∀ log, ∃ a log', x.run log = .ok (a, log')) :
    Plain (liftM x : StepM σ α) := by
  intro s
  refine completes_liftM fun log => ?_
  obtain ⟨a, log', hrun⟩ := hx log
  exact ⟨a, log', hrun, Context.SupplyKept.refl _⟩

theorem plain_emit (level : Level) (message : String) :
    Plain (liftM (emit level message) : StepM σ Unit) :=
  plain_liftM fun _ => ⟨(), _, rfl⟩

theorem plain_call {op : ClientM σ α} (htotal : op.Total) : Plain (call op) :=
  fun _ => completes_call htotal fun _ _ _ => Context.SupplyKept.refl _

theorem plain_modifyContext {f : Context → Context} (hf : ∀ c : Context, c.SupplyKept (f c)) :
    Plain (modifyContext f : StepM σ Unit) :=
  fun s => completes_modifyContext (hf s.context)

theorem plain_record (outcome : StepOutcome) : Plain (record outcome : StepM σ Unit) :=
  plain_modifyContext fun _ => ⟨rfl, rfl⟩

theorem plain_transition (next : Phase) : Plain (transition next : StepM σ Unit) := fun _ =>
  completes_transition (fun _ hmove => Context.supplyKept_transition hmove)
    (fun _ _ => Context.SupplyKept.refl _)

theorem plain_ensureMutable : Plain (ensureMutable : StepM σ Unit) :=
  plain_bind plain_context fun _ => plain_fromResult _

theorem plain_contract : Plain (contract : StepM σ Address) :=
  plain_bind plain_context fun _ => plain_fromResult _

theorem plain_tolerate {step : StepM σ α} (h : Plain step) : Plain (tolerate step) :=
  plain_tryCatch (plain_map h) fun e => by
    show Plain (if e.isFatal then throw e else pure none)
    split
    · exact plain_throw e
    · exact plain_pure none

theorem plain_forIn {γ : Type} {xs : List γ} {f : γ → β → StepM σ (ForInStep β)}
    (hf : ∀ x b, Plain (f x b)) (b : β) : Plain (forIn xs b f) := by
  induction xs generalizing b with
  | nil =>
    rw [List.forIn_nil]
    exact plain_pure b
  | cons x rest ih =>
    rw [List.forIn_cons]
    refine plain_bind (hf x b) fun r => ?_
    cases r with
    | done b' => exact plain_pure b'
    | yield b' => exact ih b'


/-! ### Steps that record tokens -/

/-- From every session with room for `room` tokens, the step completes with room for `room'`. -/
def Fits (room room' : Nat) (step : StepM σ α) : Prop :=
  ∀ s, s.context.Room room → Completes step (fun _ s' => s'.context.Room room') s

variable {room₁ room₂ room₃ : Nat}

theorem Plain.fits {step : StepM σ α} (h : Plain step) : Fits room₁ room₁ step :=
  fun s hroom => (h s).mono fun _ _ hkept => hroom.of_kept hkept

theorem Fits.weaken {step : StepM σ α} (h : Fits room₁ room₂ step) (hle : room₃ ≤ room₂) :
    Fits room₁ room₃ step :=
  fun s hroom => (h s hroom).mono fun _ _ hroom' => hroom'.mono hle

theorem fits_bind {p : StepM σ α} {f : α → StepM σ β} (hp : Fits room₁ room₂ p)
    (hf : ∀ a, Fits room₂ room₃ (f a)) (hle : room₃ ≤ room₂) : Fits room₁ room₃ (p >>= f) := by
  intro s hroom
  refine (hp s hroom).bind ?_
  rintro (e | a) s₁ hroom₁
  · exact hroom₁.mono hle
  · exact hf a s₁ hroom₁

theorem fits_tryCatch {p : StepM σ α} {handler : HarnessError → StepM σ α}
    (hp : Fits room₁ room₂ p) (hh : ∀ e, Fits room₂ room₃ (handler e)) (hle : room₃ ≤ room₂) :
    Fits room₁ room₃ (tryCatch p handler) := by
  intro s hroom
  refine (hp s hroom).tryCatch ?_
  rintro (e | a) s₁ hroom₁
  · exact hh e s₁ hroom₁
  · exact hroom₁.mono hle

theorem fits_map {p : StepM σ α} {f : α → β} (h : Fits room₁ room₂ p) :
    Fits room₁ room₂ (f <$> p) :=
  fun s hroom => completes_map ((h s hroom).mono fun _ _ hroom' => hroom')

theorem fits_tolerate {step : StepM σ α} (h : Fits room₁ room₂ step) :
    Fits room₁ room₂ (tolerate step) :=
  fits_tryCatch (fits_map h) (fun e => by
    show Fits room₂ room₂ (if e.isFatal then throw e else pure none)
    split
    · exact (plain_throw e).fits
    · exact (plain_pure none).fits) le_rfl

/-- Recording a token takes one unit of room. -/
theorem fits_addToken (record : TokenRecord) :
    Fits (room₁ + 1) room₁ (modifyContext (·.addToken record) : StepM σ Unit) :=
  fun _ hroom => completes_modifyContext (hroom.addToken record)

/-- A loop whose every round takes at most one unit of room takes at most one per element. -/
theorem fits_forIn {γ : Type} {f : γ → β → StepM σ (ForInStep β)}
    (hf : ∀ room x b, Fits (room + 1) room (f x b)) (xs : List γ) (b : β) (room : Nat) :
    Fits (room + xs.length) room (forIn xs b f) := by
  induction xs generalizing b with
  | nil =>
    rw [List.forIn_nil]
    exact (plain_pure b).fits
  | cons x rest ih =>
    rw [List.forIn_cons, List.length_cons, ← Nat.add_assoc]
    refine fits_bind (hf _ x b) (fun r => ?_) (Nat.le_add_right room _)
    cases r with
    | done b' => exact (plain_pure b').fits.weaken (Nat.le_add_right room _)
    | yield b' => exact ih b'

/-- The expected supply, read while there is room, never overflows. -/
theorem fits_expectedSupply {f : Option Nat → StepM σ α} (hf : ∀ v, Fits room₁ room₂ (f v)) :
    Fits room₁ room₂ (context >>= fun c => liftM (checked c.expectedSupply) >>= f) := by
  intro s hroom
  obtain ⟨v, hv⟩ := hroom.expectedSupply
  refine completes_bind (completes_context ?_)
  rw [proceeds_ok]
  refine completes_bind (completes_checked hv ?_)
  rw [proceeds_ok]
  exact hf v s hroom

end StepM

/-! ### The steps that keep the supply -/

/-- The chain verdict is computed without halting. -/
theorem verifyChain_answers (snapshot : BlockSnapshot) (view : Option (Except HarnessError L3View))
    (expected : Nat) (outcome : StepOutcome) (log : Array LogRecord) :
    ∃ a log', (verifyChain snapshot view expected outcome).run log = .ok (a, log') := by
  unfold verifyChain
  split
  · exact ⟨_, _, rfl⟩
  · split
    · split <;> exact ⟨_, _, rfl⟩
    · exact ⟨_, _, rfl⟩
    · exact ⟨_, _, rfl⟩

theorem checkGasFloor_answers (step : String) (snapshot : BlockSnapshot) (minimum : Nat)
    (log : Array LogRecord) : ∃ a log', (checkGasFloor step snapshot minimum).run log = .ok (a, log') := by
  unfold checkGasFloor
  split <;> exact ⟨_, _, rfl⟩

theorem compareField_answers (field expected observed : String) (log : Array LogRecord) :
    ∃ a log', (compareField field expected observed).run log = .ok (a, log') := by
  unfold compareField
  split <;> exact ⟨_, _, rfl⟩

/-! ### The additions of the mint steps -/

/-- Checking mint events never overflows when none of them carries the largest token id. -/
theorem verifyMintedFrom_total (position : Nat) (previous : Option Nat)
    (pairs : List (TransferEvent × Address)) (hprevious : ∀ p, previous = some p → p < u64Max)
    (hids : ∀ pair ∈ pairs, pair.1.tokenId < u64Max) :
    ∃ r, (verifyMintedFrom position previous pairs).run = .ok r := by
  induction pairs generalizing position previous with
  | nil => exact ⟨_, rfl⟩
  | cons pair rest ih =>
    obtain ⟨event, recipient⟩ := pair
    have hevent : event.tokenId < u64Max := hids _ List.mem_cons_self
    obtain ⟨r, hrest⟩ := ih (position + 1) (some event.tokenId)
      (fun p hp => by cases hp; exact hevent) (fun pair hpair => hids pair (List.mem_cons_of_mem _ hpair))
    simp only [verifyMintedFrom]
    split
    · simp [ExceptT.run_throw]
    · cases previous with
      | none => simp [hrest]
      | some previous =>
        have hnext : U64.checkedAdd previous 1 = .ok (previous + 1) := by
          have := hprevious previous rfl
          simp [U64.checkedAdd]
          omega
        by_cases hid : event.tokenId = previous + 1
        · rw [hid] at hrest
          simp [ExceptT.run_bind, hnext, hid, hrest]
        · simp [ExceptT.run_bind, hnext, hid]

theorem verifyMinted_total {events : List TransferEvent} (recipients : List Address)
    (hids : ∀ event ∈ events, event.tokenId < u64Max) :
    ∃ r, (verifyMinted events recipients).run = .ok r := by
  unfold verifyMinted
  split
  · simp [ExceptT.run_throw]
  · exact verifyMintedFrom_total 0 none _ (by simp)
      fun ⟨event, _⟩ hpair => hids event (List.of_mem_zip hpair).1

theorem plain_checking {σ α : Type} {check : ExceptT HarnessError (Except Overflow) α}
    {r : Except HarnessError α} (hcheck : check.run = .ok r) :
    Plain (checking check : StepM σ α) := by
  unfold checking
  refine plain_bind (plain_liftM fun log => ⟨r, log, ?_⟩) fun _ => plain_fromResult _
  rw [hcheck]
  rfl

section Plain

variable {σ : Type} {client : Client σ} (htotal : client.Total)
include htotal

theorem readViews_plain (contract : Option Address) : Plain (readViews client contract) := by
  unfold readViews
  cases contract with
  | none => exact plain_bind (plain_call (htotal.snapshot)) fun _ => plain_pure _
  | some contract =>
    exact plain_bind (plain_call htotal.snapshot) fun _ =>
      plain_bind (plain_call (htotal.read _ _)) fun _ => plain_pure _

theorem checkL3_plain (expectations : Expectations) (label : String) :
    Plain (checkL3 client expectations label) := by
  unfold checkL3
  refine plain_bind plain_context fun _ => plain_bind (readViews_plain htotal _) fun views => ?_
  obtain ⟨snapshot, view⟩ := views
  dsimp only
  split
  · refine plain_bind (plain_pure _) fun snapshot => plain_bind plain_context fun _ => ?_
    split
    refine plain_bind (plain_emit _ _) fun _ => ?_
    all_goals
      refine plain_bind (plain_pure _) fun outcome => ?_
      refine plain_bind (plain_modifyContext fun _ => ⟨rfl, rfl⟩) fun _ => ?_
      refine plain_bind (plain_liftM (verifyChain_answers _ _ _ _)) fun verdict => ?_
      split
      · exact plain_bind (plain_record _) fun _ => plain_throw _
      · refine plain_bind (plain_emit _ _) fun _ => plain_bind (plain_record _) fun _ => ?_
        split
        · exact plain_bind (plain_liftM (checkGasFloor_answers _ _ _)) fun _ =>
            plain_bind (plain_record _) fun _ => plain_pure _
        · exact plain_pure _
  · exact plain_bind (plain_record _) fun _ => plain_throw_bind

theorem tryDeploy_plain (artifact : Artifact) (deployer admin : Address) :
    Plain (tryDeploy client artifact deployer admin) := by
  unfold tryDeploy
  refine plain_bind plain_ensureMutable fun _ => plain_bind (plain_emit _ _) fun _ => ?_
  refine plain_bind (plain_call (htotal.balance _)) fun answer => ?_
  extract_lets afterBalance
  have hafter : ∀ balance, Plain (afterBalance balance) := by
    intro balance
    simp only [afterBalance]
    refine plain_bind (plain_call (htotal.deploy _ _ _)) fun answer => ?_
    split
    · refine plain_bind (plain_pure _) fun deployment => ?_
      refine plain_bind (plain_fromResult _) fun receipt => ?_
      split
      · intro s
        refine completes_bind (completes_context ?_)
        rw [proceeds_ok]
        cases hset : s.context.setDeployment _ with
        | error e => exact completes_bind (completes_fromResult (Context.SupplyKept.refl _))
        | ok updated =>
          refine completes_bind (completes_fromResult ?_)
          refine completes_bind (completes_modifyContext ?_)
          rw [proceeds_ok]
          exact (plain_bind (plain_emit _ _) (fun _ => plain_pure _) _).mono fun _ _ hkept =>
            (Context.supplyKept_setDeployment hset).trans hkept
      · exact plain_throw _
    · exact plain_throw_bind
  clear_value afterBalance
  split
  · exact plain_bind (plain_emit _ _) fun _ => plain_bind (plain_pure _) hafter
  · exact plain_bind (plain_emit _ _) fun _ => plain_bind (plain_pure _) hafter

theorem deploy_plain (artifact : Artifact) (deployer admin : Address) :
    Plain (deploy client artifact deployer admin) := by
  unfold deploy
  refine plain_tryCatch ?_ fun _ => plain_bind (plain_record _) fun _ => plain_throw _
  refine plain_bind (tryDeploy_plain htotal _ _ _) fun ⟨_, _⟩ => ?_
  exact plain_bind (plain_record _) fun _ => plain_pure _

theorem readSingle_plain {α : Type} (contract : Address) (query : Call)
    (convert : Token → Except AbiError α) : Plain (readSingle client contract query convert) := by
  unfold readSingle
  refine plain_bind (plain_call (htotal.read _ _)) fun answer => ?_
  split <;> exact plain_pure _

theorem readTotalSupply_plain : Plain (readTotalSupply client) := by
  unfold readTotalSupply
  refine plain_bind plain_contract fun _ => plain_bind (plain_call (htotal.read _ _)) fun _ => ?_
  dsimp only
  split
  · exact plain_bind (plain_pure _) fun _ => plain_fromResult _
  · exact plain_throw_bind

theorem tryTransfer_plain (tokenId : Nat) (sender recipient : Address) :
    Plain (tryTransfer client tokenId sender recipient) := by
  unfold tryTransfer
  refine plain_bind plain_ensureMutable fun _ => plain_bind plain_contract fun _ => ?_
  refine plain_bind plain_context fun _ => ?_
  split
  · refine plain_bind (plain_emit _ _) fun _ => plain_bind (plain_call (htotal.send _ _ _)) fun _ => ?_
    dsimp only
    split
    · refine plain_bind (plain_pure _) fun _ => plain_bind (plain_fromResult _) fun _ => ?_
      refine plain_bind (readSingle_plain htotal _ _ _) fun _ => ?_
      split
      · refine plain_bind (plain_pure _) fun _ => ?_
        split
        · exact plain_throw_bind
        · exact plain_bind (plain_emit _ _) fun _ => plain_pure _
      · exact plain_throw_bind
    · exact plain_throw_bind
  · exact plain_throw _

theorem transferToken_plain (tokenId : Nat) (sender recipient : Address) :
    Plain (transferToken client tokenId sender recipient) := by
  unfold transferToken
  refine plain_tryCatch ?_ fun error => ?_
  · refine plain_bind (tryTransfer_plain htotal _ _ _) fun _ => ?_
    exact plain_bind (plain_modifyContext fun c => c.supplyKept_setOwner _ _) fun _ => plain_record _
  · refine plain_bind (plain_emit _ _) fun _ => ?_
    dsimp only
    split
    · exact plain_bind (plain_modifyContext fun c => c.supplyKept_setOwner _ _) fun _ =>
        plain_bind (plain_record _) fun _ => plain_throw _
    · exact plain_bind (plain_record _) fun _ => plain_throw _

theorem auditTokens_plain : Plain (auditTokens client) := by
  unfold auditTokens
  refine plain_bind plain_context fun _ => ?_
  split
  · exact plain_bind (plain_record _) fun _ => plain_pure _
  · refine plain_bind plain_context fun _ => ?_
    refine plain_bind (plain_forIn (fun _ _ => ?_) _) fun mismatches => ?_
    · refine plain_bind (readSingle_plain htotal _ _ _) fun _ => ?_
      refine plain_bind (readSingle_plain htotal _ _ _) fun _ => ?_
      exact plain_bind (plain_emit _ _) fun _ => plain_bind (plain_pure _) fun _ => plain_pure _
    dsimp only
    split
    · exact plain_bind (plain_emit _ _) fun _ => plain_bind (plain_record _) fun _ => plain_pure _
    · refine plain_bind (plain_forIn (fun _ _ => ?_) _) fun _ => plain_pure _
      exact plain_bind (plain_emit _ _) fun _ => plain_bind (plain_record _) fun _ => plain_pure _

theorem readInfo_plain : Plain (readInfo client) := by
  unfold readInfo
  refine plain_bind plain_contract fun _ => plain_bind (plain_call (htotal.read _ _)) fun _ => ?_
  split
  · exact plain_fromResult _
  · exact plain_throw _

theorem checkSupply_fits (room : Nat) : Fits room room (checkSupply client) := by
  unfold checkSupply
  refine fits_expectedSupply fun expected => Plain.fits ?_
  split
  · refine plain_tryCatch ?_ fun _ =>
      plain_bind (plain_emit _ _) fun _ => plain_bind (plain_record _) fun _ => plain_throw _
    refine plain_bind (readTotalSupply_plain htotal) fun _ => ?_
    dsimp only
    split
    · exact plain_throw_bind
    · refine plain_bind (plain_emit _ _) fun _ => plain_bind plain_context fun _ => ?_
      exact plain_bind (plain_record _) fun _ => plain_pure _
  · exact plain_bind (plain_record _) fun _ => plain_pure _

theorem validateMetadata_fits (expectations : Expectations) (room : Nat) :
    Fits room room (validateMetadata client expectations) := by
  unfold validateMetadata
  refine fits_bind (Plain.fits ?_) (fun info => ?_) le_rfl
  · exact plain_tryCatch (readInfo_plain htotal) fun _ =>
      plain_bind (plain_emit _ _) fun _ => plain_bind (plain_record _) fun _ => plain_throw _
  iterate 7 refine fits_bind (plain_emit _ _).fits (fun _ => ?_) le_rfl
  refine fits_expectedSupply fun expected => Plain.fits ?_
  refine plain_bind (plain_forIn (fun ⟨_, _, _⟩ _ => ?_) _) fun _ => plain_pure _
  exact plain_bind (plain_liftM (compareField_answers _ _ _)) fun _ =>
    plain_bind (plain_record _) fun _ => plain_pure _

section Moderate

variable (hmoderate : client.Moderate)
include hmoderate

/-- A supply read from a moderate client leaves room for the tokens of a test run. -/
theorem readTotalSupply_moderate (s : Session σ) :
    Completes (readTotalSupply client) (fun r s' =>
      s.context.SupplyKept s'.context ∧ ∀ supply, r = .ok supply → supply + 4 ≤ u64Max) s := by
  unfold readTotalSupply
  refine completes_bind (completes_contract ?_)
  cases s.context.contract with
  | error e => exact ⟨.refl _, by simp⟩
  | ok contract =>
    rw [proceeds_ok]
    refine completes_bind (completes_call (htotal.read _ _) fun answer c hanswer => ?_)
    rw [proceeds_ok]
    dsimp only
    split
    · rename_i tokens
      refine completes_bind (completes_pure ?_)
      rw [proceeds_ok]
      refine completes_fromResult ⟨.refl _, fun supply hsupply => ?_⟩
      cases hread : Contract.single tokens >>= Abi.Token.asU64 with
      | error e => simp [hread, Except.mapError] at hsupply
      | ok n =>
        simp only [hread, Except.mapError, Except.ok.injEq] at hsupply
        subst hsupply
        exact hmoderate.supply _ _ _ _ _ hanswer hread
    · exact completes_bind (completes_throw ⟨.refl _, by simp⟩)

theorem readBaselineSupply_fits (room : Nat) : Fits room room (readBaselineSupply client) := by
  unfold readBaselineSupply
  refine fits_tryCatch ?_ (fun _ => Plain.fits ?_) le_rfl
  · intro s hroom
    refine (readTotalSupply_moderate htotal hmoderate s).bind ?_
    rintro (e | supply) s₁ ⟨hkept, hsupply⟩
    · exact hroom.of_kept hkept
    · rw [proceeds_ok]
      refine completes_bind (completes_modifyContext ?_)
      rw [proceeds_ok]
      exact (plain_bind (plain_record _) fun _ => plain_pure _).fits _
        ((hroom.of_kept hkept).setBaselineSupply (hsupply supply rfl))
  · exact plain_bind (plain_record _) fun _ => plain_throw _

/-- A mint sent to a moderate client returns only mint events below the largest token id. -/
theorem submitMint_moderate (minter : Address) (mint : Call) (s : Session σ) :
    Completes (submitMint client minter mint) (fun r s' => s.context.SupplyKept s'.context ∧
      ∀ receipt events, r = .ok (receipt, events) → ∀ event ∈ events, event.tokenId < u64Max) s := by
  unfold submitMint
  refine completes_bind (completes_ensureMutable ?_)
  cases s.context.ensureMutable with
  | error e => exact ⟨.refl _, by simp⟩
  | ok u =>
    rw [proceeds_ok]
    refine completes_bind (completes_contract ?_)
    cases s.context.contract with
    | error e => exact ⟨.refl _, by simp⟩
    | ok contract =>
      rw [proceeds_ok]
      refine completes_bind (completes_emit ?_)
      rw [proceeds_ok]
      refine completes_bind (completes_call (htotal.send _ _ _) fun answer c hanswer => ?_)
      rw [proceeds_ok]
      dsimp only
      split
      · rename_i outcome
        refine completes_bind (completes_pure ?_)
        rw [proceeds_ok]
        refine completes_bind (completes_fromResult ?_)
        cases hreceipt : successfulReceipt outcome with
        | error message => exact ⟨.refl _, by simp⟩
        | ok receipt =>
          simp only [Except.mapError, proceeds_ok]
          refine completes_bind (completes_fromResult ?_)
          cases hevents : TransferEvent.collect receipt contract with
          | error abiError => exact ⟨.refl _, by simp⟩
          | ok events =>
            simp only [proceeds_ok]
            refine completes_pure ⟨.refl _, ?_⟩
            rintro _ _ ⟨⟩
            exact hmoderate.mintIds _ _ _ _ _ _ _ hanswer (by simp [mintEvents, hreceipt, hevents])
      · exact completes_bind (completes_throw ⟨.refl _, by simp⟩)

/-- The single mint records at most one token. -/
theorem mintOne_fits (minter recipient : Address) (uri : String) (room : Nat) :
    Fits (room + 1) room (mintOne client minter recipient uri) := by
  unfold mintOne
  refine fits_tryCatch ?_ (fun _ => Plain.fits ?_) le_rfl
  · intro s hroom
    refine (submitMint_moderate htotal hmoderate _ _ s).bind ?_
    rintro (e | ⟨receipt, events⟩) s₁ ⟨hkept, hids⟩
    · exact (hroom.of_kept hkept).mono (Nat.le_succ room)
    · rw [proceeds_ok]
      obtain ⟨r, hcheck⟩ := verifyMinted_total [recipient] (hids receipt events rfl)
      refine ((plain_checking hcheck) s₁).bind ?_
      rintro (e | ids) s₂ hkept₂
      · exact ((hroom.of_kept hkept).of_kept hkept₂).mono (Nat.le_succ room)
      · rw [proceeds_ok]
        split
        · refine fits_bind (fits_addToken _) (fun _ => Plain.fits ?_) le_rfl s₂
            ((hroom.of_kept hkept).of_kept hkept₂)
          exact plain_bind (plain_emit _ _) fun _ => plain_bind (plain_record _) fun _ => plain_pure _
        · exact completes_throw (((hroom.of_kept hkept).of_kept hkept₂).mono (Nat.le_succ room))
  · exact plain_bind (plain_emit _ _) fun _ => plain_bind (plain_record _) fun _ => plain_throw _

/-- A batch records at most one token per recipient. -/
theorem mintBatch_fits (minter : Address) (recipients : List Address) (uris : List String)
    (room : Nat) : Fits (room + recipients.length) room (mintBatch client minter recipients uris) := by
  unfold mintBatch
  refine fits_tryCatch ?_ (fun _ => Plain.fits ?_) le_rfl
  · refine fits_bind (plain_fromResult _).fits (fun _ => ?_) (Nat.le_add_right room _)
    intro s hroom
    refine (submitMint_moderate htotal hmoderate _ _ s).bind ?_
    rintro (e | ⟨receipt, events⟩) s₁ ⟨hkept, hids⟩
    · exact (hroom.of_kept hkept).mono (Nat.le_add_right room _)
    · rw [proceeds_ok]
      obtain ⟨r, hcheck⟩ := verifyMinted_total recipients (hids receipt events rfl)
      refine ((plain_checking hcheck) s₁).bind ?_
      rintro (e | ids) s₂ hkept₂
      · exact ((hroom.of_kept hkept).of_kept hkept₂).mono (Nat.le_add_right room _)
      · rw [proceeds_ok]
        have hrounds : ((ids.zip recipients).zip uris).length ≤ recipients.length := by
          simp only [List.length_zip]
          omega
        refine fits_bind (fits_forIn (fun room' ⟨⟨_, _⟩, _⟩ _ => ?_) _ _ room) (fun _ => Plain.fits ?_)
          le_rfl s₂ (((hroom.of_kept hkept).of_kept hkept₂).mono (by omega))
        · exact plain_bind (plain_emit _ _) fun _ => plain_bind (plain_record _) fun _ => plain_pure _
        · exact fits_bind (fits_addToken _) (fun _ => (plain_pure _).fits) le_rfl
  · exact plain_bind (plain_emit _ _) fun _ => plain_bind (plain_record _) fun _ => plain_throw _

end Moderate

end Plain

namespace Orchestrator

variable {σ : Type} {o : Orchestrator σ}

/-- A run returns whenever its workflow's steps complete from the fresh context. -/
theorem runWorkflow_returns {workflow : Workflow} {runId startedAt : String} {artifact : Artifact}
    (a : σ) (log : Array LogRecord)
    (hsteps : Fits 4 0 (match workflow with
      | .deploy => o.executeDeploy artifact
      | .test => o.executeFull artifact)) :
    ∃ b context log',
      (o.runWorkflow workflow runId startedAt artifact a).run log = .ok ((b, context), log') := by
  unfold runWorkflow
  dsimp only
  rw [emit_bind_run, StateT.run_bind]
  have hguarded : Completes (tryCatch (match workflow with
      | .deploy => o.executeDeploy artifact
      | .test => o.executeFull artifact) fun error => do
        emit .error ("Run " ++ runId ++ " stopped: " ++ error.message)
        abort) (fun _ _ => True) ⟨a, Context.create runId startedAt workflow⟩ := by
    refine (hsteps ⟨a, _⟩ (Context.room_create runId startedAt workflow)).tryCatch fun r s' _ => ?_
    cases r with
    | ok u => trivial
    | error e => exact completes_bind (completes_emit (completes_abort trivial))
  obtain ⟨r, s', log', hexec, -⟩ := hguarded (log.push _)
  unfold exec at hexec
  erw [hexec]
  exact ⟨_, _, _, rfl⟩

theorem signerAt_plain (signers : List Address) (index : Nat) :
    Plain (signerAt signers index : StepM σ Address) := by
  unfold signerAt
  split
  · exact plain_pure _
  · exact plain_throw _

section Plain

variable (htotal : o.client.Total)
include htotal

theorem start_plain (needed : Nat) : Plain (o.start needed) := by
  unfold start
  refine plain_bind (plain_transition _) fun _ => plain_bind (plain_call htotal.signers) fun _ => ?_
  extract_lets signers afterward
  have hafter : ∀ u, Plain (afterward u) := fun _ => plain_fromResult _
  clear_value afterward signers
  split
  · exact plain_bind (plain_record _) hafter
  · exact hafter ()

theorem gate_plain (label : String) : Plain (o.gate label) :=
  plain_tryCatch (plain_map (checkL3_plain htotal _ _)) fun _ =>
    plain_bind (plain_transition _) fun _ => plain_throw _

theorem deployAndVerify_plain (artifact : Artifact) (deployer : Address) :
    Plain (o.deployAndVerify artifact deployer) := by
  unfold deployAndVerify
  refine plain_bind (gate_plain htotal _) fun _ => plain_bind (plain_emit _ _) fun _ => ?_
  refine plain_bind (plain_map (deploy_plain htotal _ _ _)) fun _ => ?_
  exact plain_bind (gate_plain htotal _) fun _ => plain_transition _

theorem transferPhase_plain (single : Option Nat) (user1 user2 : Address) :
    Plain (o.transferPhase single user1 user2) := by
  unfold transferPhase
  refine plain_bind (plain_transition _) fun _ => plain_bind (plain_emit _ _) fun _ => ?_
  dsimp only
  split
  · exact plain_bind (plain_map (plain_tolerate (transferToken_plain htotal _ _ _))) fun _ =>
      plain_map (auditTokens_plain htotal)
  · exact plain_bind (plain_record _) fun _ => plain_map (auditTokens_plain htotal)

theorem validatePhase_fits (room : Nat) : Fits room room o.validatePhase := by
  unfold validatePhase
  refine fits_bind (plain_transition _).fits (fun _ => ?_) le_rfl
  refine fits_bind (plain_emit _ _).fits (fun _ => ?_) le_rfl
  refine fits_bind (plain_map (checkL3_plain htotal _ _)).fits (fun _ => ?_) le_rfl
  refine fits_bind (fits_map (fits_tolerate (validateMetadata_fits htotal _ room))) (fun _ => ?_) le_rfl
  exact (plain_transition _).fits

/-- The deploy workflow reads no baseline, so it keeps whatever room there is. -/
theorem executeDeploy_fits (artifact : Artifact) (room : Nat) :
    Fits room room (o.executeDeploy artifact) := by
  unfold executeDeploy
  refine fits_bind (start_plain htotal _).fits (fun signers => ?_) le_rfl
  refine fits_bind (signerAt_plain _ _).fits (fun deployer => ?_) le_rfl
  refine fits_bind (deployAndVerify_plain htotal _ _).fits (fun _ => ?_) le_rfl
  refine fits_bind (plain_transition _).fits (fun _ => ?_) le_rfl
  refine fits_bind (fits_map (fits_tolerate (validateMetadata_fits htotal _ room))) (fun _ => ?_) le_rfl
  exact (plain_transition _).fits

section Moderate

variable (hmoderate : o.client.Moderate)
include hmoderate

/-- The mint phase records at most four tokens: one single mint and a batch of three. -/
theorem mintPhase_fits (deployer user1 user2 : Address) (room : Nat) :
    Fits (room + 4) room (o.mintPhase deployer user1 user2) := by
  unfold mintPhase
  refine fits_bind (plain_transition _).fits (fun _ => ?_) (Nat.le_add_right room _)
  refine fits_bind (plain_emit _ _).fits (fun _ => ?_) (Nat.le_add_right room _)
  refine fits_bind (fits_map (fits_tolerate (readBaselineSupply_fits htotal hmoderate _)))
    (fun _ => ?_) (Nat.le_add_right room _)
  refine fits_bind (fits_tolerate (mintOne_fits htotal hmoderate _ _ _ (room + 3)))
    (fun single => ?_) (Nat.le_add_right room _)
  refine fits_bind
    (fits_map (fits_tolerate (mintBatch_fits htotal hmoderate _ [user1, user2, deployer] _ room)))
    (fun _ => ?_) le_rfl
  exact fits_bind (fits_map (fits_tolerate (checkSupply_fits htotal room)))
    (fun _ => (plain_pure _).fits) le_rfl

theorem executeFull_fits (artifact : Artifact) (room : Nat) :
    Fits (room + 4) room (o.executeFull artifact) := by
  unfold executeFull
  refine fits_bind (start_plain htotal _).fits (fun signers => ?_) (Nat.le_add_right room _)
  refine fits_bind (signerAt_plain _ _).fits (fun deployer => ?_) (Nat.le_add_right room _)
  refine fits_bind (signerAt_plain _ _).fits (fun user1 => ?_) (Nat.le_add_right room _)
  refine fits_bind (signerAt_plain _ _).fits (fun user2 => ?_) (Nat.le_add_right room _)
  refine fits_bind (plain_emit _ _).fits (fun _ => ?_) (Nat.le_add_right room _)
  refine fits_bind (deployAndVerify_plain htotal _ _).fits (fun _ => ?_) (Nat.le_add_right room _)
  refine fits_bind (mintPhase_fits htotal hmoderate _ _ _ room) (fun single => ?_) le_rfl
  refine fits_bind (transferPhase_plain htotal _ _ _).fits (fun _ => ?_) le_rfl
  exact validatePhase_fits htotal room

end Moderate

end Plain


/-- Every run over a client whose operations answer returns its context, from which the report
is read, with one exception. A test run adds the tokens it records to the supply the contract
reported, and one to each token id of a batch, and halts when a sum overflows; it returns when
the client's reports leave room for these sums (`Client.Moderate`). A deploy run makes neither
addition and returns for every such client. -/
theorem runs_return_report (o : Orchestrator σ) (htotal : o.client.Total) :
    (∀ runId startedAt artifact a log, ∃ b context log',
      (o.runWorkflow .deploy runId startedAt artifact a).run log = .ok ((b, context), log')) ∧
    (o.client.Moderate → ∀ runId startedAt artifact a log, ∃ b context log',
      (o.runWorkflow .test runId startedAt artifact a).run log = .ok ((b, context), log')) :=
  ⟨fun _ _ _ a log => runWorkflow_returns a log ((executeDeploy_fits htotal _ 4).weaken (by omega)),
    fun hmoderate _ _ _ a log => runWorkflow_returns a log (executeFull_fits htotal hmoderate _ 0)⟩

end Orchestrator

theorem Client.saturated_total : Client.saturated.Total :=
  ⟨ClientM.total_pure _, ClientM.total_pure _, fun _ => ClientM.total_throw _,
    ClientM.total_pure _, fun _ _ _ => ClientM.total_pure _, fun _ _ _ => ClientM.total_pure _,
    fun _ _ => ClientM.total_pure _⟩

/-- The cooperative node answers as the saturated one does, its reads apart. -/
theorem Client.cooperative_total : Client.cooperative.Total :=
  { Client.saturated_total with read := fun _ _ => ClientM.total_pure _ }

/-- The cooperative node's contract reports no supply, and every transaction it includes mints
token 1 at most. -/
theorem Client.cooperative_moderate : Client.cooperative.Moderate where
  supply a a' contract tokens supply hanswer hsupply := by
    obtain ⟨htokens, -⟩ := (ends_pure _ a).answers_eq hanswer
    cases htokens
    have hzero : (Contract.single [.uint (Word.ofU64 0)] >>= Abi.Token.asU64) = .ok 0 := by decide
    rw [hzero] at hsupply
    cases hsupply
    decide
  mintIds a a' minter contract mint answer events hanswer hevents := by
    obtain ⟨rfl, -⟩ := (ends_pure _ a).answers_eq hanswer
    have hread : TransferEvent.ofLog? (saturatedMint.toLog saturatedContract) =
        some (.ok saturatedMint) :=
      Sim.TransferEvent.ofLog?_toLog _ _ (by decide)
    have hsaturated : events ⊆ [saturatedMint] := by
      by_cases hc : (saturatedMint.toLog saturatedContract).address = contract
      · simp [mintEvents, successfulReceipt, TransferEvent.collect, TransferEvent.collectLogs,
          includedReceipt, TxOutcome.included, hc, hread] at hevents
        rw [← hevents]
        exact List.filter_subset_self _
      · simp [mintEvents, successfulReceipt, TransferEvent.collect, TransferEvent.collectLogs,
          includedReceipt, TxOutcome.included, hc] at hevents
        simp [hevents]
    intro event hevent
    rw [List.mem_singleton.1 (hsaturated hevent)]
    decide

/-- The cooperative node answers every operation and leaves room for every addition, so both of
its runs return, the test run through its deployment, mints and transfer. -/
theorem cooperative_runs_return :
    Client.cooperative.Total ∧ Client.cooperative.Moderate ∧
      (∃ b context log', (Orchestrator.cooperative.runWorkflow .deploy "run" "" ⟨"", [0]⟩
        ()).run #[] = .ok ((b, context), log')) ∧
      ∃ b context log', (Orchestrator.cooperative.runWorkflow .test "run" "" ⟨"", [0]⟩
        ()).run #[] = .ok ((b, context), log') :=
  have hreturns :=
    Orchestrator.runs_return_report Orchestrator.cooperative Client.cooperative_total
  ⟨Client.cooperative_total, Client.cooperative_moderate, hreturns.1 _ _ _ _ _,
    hreturns.2 Client.cooperative_moderate _ _ _ _ _⟩

/-- The saturated node answers every operation and its deploy run returns, yet its test run
halts: the baseline supply it reports is the largest there is, and the first token recorded
leaves no room above it. The check of a batch halts the same way on a first mint event that
carries the largest token id. The run compares a mint log with the transfer topic, a hash only
the kernel evaluates. -/
theorem saturated_test_run_halts :
    Client.saturated.Total ∧
      (∃ b context log', (Orchestrator.saturated.runWorkflow .deploy "saturated" "" ⟨"", [0]⟩
        ()).run #[] = .ok ((b, context), log')) ∧
      ((Orchestrator.saturated.runWorkflow .test "saturated" "" ⟨"", [0]⟩ ()).run #[]).map
        (fun _ => ()) = .error .add ∧
      (verifyMinted
        [{ source := Address.zero, target := Address.ofNatWrap 2, tokenId := u64Max },
          { source := Address.zero, target := Address.ofNatWrap 3, tokenId := 0 }]
        [Address.ofNatWrap 2, Address.ofNatWrap 3]).run = .error .add :=
  ⟨Client.saturated_total,
    Orchestrator.runWorkflow_returns _ _
      ((Orchestrator.executeDeploy_fits Client.saturated_total _ 4).weaken (by omega)),
    by decide +kernel, by decide⟩

end NftProbe.Run
