import NftProbe.Proofs.Sim.Runs
import NftProbe.Proofs.Abi.RoundTrip

/-!
# Blocks, nonces and fees

Every included transaction makes one block, moves its sender's nonce on and charges its sender
the fee, and nothing else does (`Event.Books`). Along every run from a fresh chain the counters
therefore stay in lock-step (`run_blocks_nonces_fees`): the block number is the number of
transactions included so far, whose receipts name the blocks `1, 2, …` in order, and it is the
sum of all nonces. A balance changes only at an included transaction of its own account, by the
fee `gasUsed * gasPriceWei`, or by all of the balance when the fee is larger. The snapshots a run
reads never go back: the block number only grows, and the timestamp grows with it. Where the
timestamp of the latest block is a 64-bit number, the snapshot answers it.

The sum of the nonces is the sum of the values of the table of nonces, whose keys stay distinct
(`Table.sum_values_update`, `Chain.NoncesCount`).
-/

set_option autoImplicit false

namespace NftProbe

/-! ### Sums over a table -/

namespace Table

variable {κ ν : Type} [BEq κ] [LawfulBEq κ] [DecidableEq κ]

theorem insert_cons_of_ne (entry : κ × ν) (rest : Table κ ν) {key : κ} (value : ν)
    (hne : entry.1 ≠ key) : insert (entry :: rest) key value = entry :: insert rest key value := by
  have hcons : contains (entry :: rest) key = rest.contains key := by simp [contains, hne]
  by_cases hrest : rest.contains key = true
  · simp [insert, hcons, hrest, hne]
  · simp [insert, hcons, hrest]

/-- The keys of a table after an insertion: the same, or the new key at the end. -/
theorem keys_insert (table : Table κ ν) (key : κ) (value : ν) :
    (table.insert key value).map Prod.fst =
      if table.contains key then table.map Prod.fst else table.map Prod.fst ++ [key] := by
  unfold insert
  split
  · rw [List.map_map]
    congr 1
    funext entry
    by_cases h : entry.1 = key <;> simp [h]
  · simp

/-- An insertion into a table whose keys are distinct keeps them distinct. -/
theorem nodup_keys_insert {table : Table κ ν} (key : κ) (value : ν)
    (hnodup : (table.map Prod.fst).Nodup) : ((table.insert key value).map Prod.fst).Nodup := by
  rw [keys_insert]
  split
  · exact hnodup
  · rename_i hcontains
    refine List.nodup_append.2 ⟨hnodup, List.nodup_singleton key, ?_⟩
    intro a ha b hb hab
    rw [List.mem_singleton] at hb
    subst hb hab
    obtain ⟨entry, hentry, rfl⟩ := List.mem_map.1 ha
    exact hcontains (List.any_eq_true.2 ⟨entry, hentry, by simp⟩)

/-- Inserting into a table of numbers with distinct keys replaces the key's value in the sum. -/
theorem sum_values_insert (table : Table κ Nat) (key : κ) (value : Nat)
    (hnodup : (table.map Prod.fst).Nodup) :
    (table.insert key value).values.sum + (table.get? key).getD 0 = table.values.sum + value := by
  induction table with
  | nil => simp [insert, contains, values, get?]
  | cons entry rest ih =>
    obtain ⟨k, v⟩ := entry
    rw [List.map_cons, List.nodup_cons] at hnodup
    by_cases hk : k = key
    · subst hk
      have hrest : ∀ e ∈ rest, e.1 ≠ k := fun e he hek =>
        hnodup.1 (List.mem_map.2 ⟨e, he, hek⟩)
      have hmap : rest.map (fun e => if (e.1 == k) = true then (k, value) else e) = rest := by
        rw [List.map_congr_left (g := id) fun e he => by simp [hrest e he], List.map_id]
      have hcontains : contains ((k, v) :: rest) k = true := by simp [contains]
      have hinsert : insert ((k, v) :: rest) k value = (k, value) :: rest := by
        rw [insert, if_pos hcontains, List.map_cons, hmap]
        simp
      rw [hinsert]
      simp [values, get?]
      omega
    · rw [insert_cons_of_ne (k, v) rest value hk]
      have hget : get? ((k, v) :: rest) key = get? rest key := by simp [get?, hk]
      simp only [values, List.map_cons, List.sum_cons] at ih ⊢
      rw [hget]
      have := ih hnodup.2
      omega

/-- Adding one to a key's value, from zero when absent, adds one to the sum. -/
theorem sum_values_update (table : Table κ Nat) (key : κ) (hnodup : (table.map Prod.fst).Nodup) :
    (table.update key 0 (· + 1)).values.sum = table.values.sum + 1 := by
  have := sum_values_insert table key ((table.get? key).getD 0 + 1) hnodup
  simp only [update]
  omega

end Table

namespace Sim

open Abi Contract

variable {chain chain' : Chain} {event : Event}

/-! ### Every event keeps the settings -/

theorem Event.Books.config_eq (h : event.Books chain chain') : chain'.config = chain.config := by
  cases h <;> rfl

theorem Runs.config_eq {events : List Event} (h : Runs chain events chain') :
    chain'.config = chain.config :=
  (Runs.lift (R := fun chain chain' => chain'.config = chain.config) (fun _ => rfl)
    (fun _ _ _ h₁ h₂ => h₂.trans h₁) (fun _ _ _ hstep => hstep.books.config_eq) h)

/-! ### Blocks and nonces -/

/-- The block number is the sum of the nonces, whose keys are distinct. -/
structure Chain.NoncesCount (chain : Chain) : Prop where
  blocks_eq : chain.blockNumber = chain.nonces.values.sum
  nodup : (chain.nonces.map Prod.fst).Nodup

theorem Event.Books.noncesCount (h : event.Books chain chain') (hc : chain.NoncesCount) :
    chain'.NoncesCount := by
  cases h with
  | idle => exact ⟨hc.blocks_eq, hc.nodup⟩
  | numbered => exact ⟨hc.blocks_eq, hc.nodup⟩
  | @included source data receipt gasUsed contracts calls revert drop stale =>
    refine ⟨?_, ?_⟩
    · simp only [Chain.blockNumber_includeFrom, Chain.nonces_includeFrom]
      rw [Table.sum_values_update _ _ hc.nodup, hc.blocks_eq]
    · exact Table.nodup_keys_insert _ _ hc.nodup

theorem Chain.noncesCount_create (config : Config) : (Chain.create config).NoncesCount :=
  ⟨rfl, List.nodup_nil⟩

/-- Each included transaction opens the next block, and only they do. -/
theorem Event.Books.blockNumber_eq (h : event.Books chain chain') :
    chain'.blockNumber = chain.blockNumber + (event.receipt?.map fun _ => 1).getD 0 ∧
      ∀ receipt, event.receipt? = some receipt → receipt.blockNumber = chain.blockNumber + 1 := by
  cases h with
  | idle _ hreceipt => simp [hreceipt]
  | numbered _ hreceipt => simp [hreceipt]
  | included _ _ hreceipt hblock =>
    refine ⟨by simp [hreceipt], fun receipt' hreceipt' => ?_⟩
    rw [hreceipt, Option.some.injEq] at hreceipt'
    rw [← hreceipt', hblock]

/-- The receipts of a run name the blocks after the first state's, one by one, up to the last
state's. -/
theorem Runs.receipt_blocks {events : List Event} (h : Runs chain events chain') :
    chain.blockNumber ≤ chain'.blockNumber ∧
      (events.filterMap Event.receipt?).map Receipt.blockNumber =
        List.range' (chain.blockNumber + 1) (chain'.blockNumber - chain.blockNumber) := by
  induction events generalizing chain with
  | nil =>
    rw [runs_nil] at h
    subst h
    simp
  | cons event events ih =>
    obtain ⟨chain₁, hstep, hrest⟩ := h
    obtain ⟨hle, hblocks⟩ := ih hrest
    obtain ⟨hnext, hreceipt⟩ := hstep.books.blockNumber_eq
    rcases hevent : event.receipt? with _ | receipt
    · rw [hevent] at hnext
      simp only [Option.map_none, Option.getD_none, Nat.add_zero] at hnext
      rw [List.filterMap_cons_none hevent, hblocks, hnext]
      exact ⟨hnext ▸ hle, rfl⟩
    · rw [hevent] at hnext
      simp only [Option.map_some, Option.getD_some] at hnext
      rw [List.filterMap_cons_some hevent, List.map_cons, hblocks, hreceipt receipt hevent, hnext]
      refine ⟨by omega, ?_⟩
      rw [show chain'.blockNumber - chain.blockNumber =
          (chain'.blockNumber - (chain.blockNumber + 1)) + 1 by omega, List.range'_succ]

/-! ### Snapshots -/

/-- A snapshot answers the latest block of the chain it reads, and leaves the chain. -/
theorem Event.Step.snapshot {snapshot : BlockSnapshot} (h : event.Step chain chain')
    (hsnapshot : event.snapshot? = some snapshot) :
    chain.snapshotOf = .ok snapshot ∧ chain' = chain := by
  cases event with
  | call exchange =>
    cases exchange with
    | snapshot r =>
      cases r with
      | error => cases hsnapshot
      | ok answered =>
        cases hsnapshot
        rcases latestBlock_ends chain with ⟨snapshot', hsnapshot', hend⟩ | hhalts
        · obtain ⟨hanswer, hchain⟩ := hend.answers_eq h
          cases hanswer
          exact ⟨hsnapshot', hchain⟩
        · exact absurd h hhalts.not_answers
    | _ => cases hsnapshot
  | _ => cases hsnapshot

theorem Chain.snapshotOf_eq_ok {snapshot : BlockSnapshot} (h : chain.snapshotOf = .ok snapshot) :
    snapshot.blockNumber = chain.blockNumber ∧
      Chain.timestampAt chain.config chain.blockNumber = .ok snapshot.timestamp := by
  unfold Chain.snapshotOf at h
  rcases htime : Chain.timestampAt chain.config chain.blockNumber with overflow | timestamp
  · rw [htime] at h
    cases h
  · rw [htime] at h
    cases h
    exact ⟨rfl, rfl⟩

theorem Chain.timestampAt_eq_ok {config : Config} {block timestamp : Nat}
    (h : Chain.timestampAt config block = .ok timestamp) :
    timestamp = config.genesisTimestamp + block * config.blockIntervalMs / 1000 := by
  unfold Chain.timestampAt at h
  rcases hmul : U64.checkedMul block config.blockIntervalMs with overflow | elapsed
  · rw [hmul] at h
    cases h
  · rw [hmul] at h
    change U64.checkedAdd _ _ = _ at h
    unfold U64.checkedMul at hmul
    unfold U64.checkedAdd at h
    split at hmul
    · cases hmul
      split at h
      · cases h
        rfl
      · cases h
    · cases hmul

/-- A later block has a later timestamp, when both are 64-bit numbers. -/
theorem Chain.timestampAt_mono {config : Config} {block block' timestamp timestamp' : Nat}
    (hle : block ≤ block') (h : Chain.timestampAt config block = .ok timestamp)
    (h' : Chain.timestampAt config block' = .ok timestamp') : timestamp ≤ timestamp' := by
  rw [Chain.timestampAt_eq_ok h, Chain.timestampAt_eq_ok h']
  have : block * config.blockIntervalMs ≤ block' * config.blockIntervalMs :=
    Nat.mul_le_mul_right _ hle
  have : block * config.blockIntervalMs / 1000 ≤ block' * config.blockIntervalMs / 1000 :=
    Nat.div_le_div_right this
  omega

/-- The snapshots of a run read blocks between its first and last states', in order, each with
the timestamp of its block. -/
theorem Runs.snapshots {events : List Event} (h : Runs chain events chain') :
    (∀ snapshot ∈ events.filterMap Event.snapshot?,
      chain.blockNumber ≤ snapshot.blockNumber ∧ snapshot.blockNumber ≤ chain'.blockNumber ∧
        Chain.timestampAt chain.config snapshot.blockNumber = .ok snapshot.timestamp) ∧
      ((events.filterMap Event.snapshot?).map BlockSnapshot.blockNumber).Pairwise (· ≤ ·) := by
  induction events generalizing chain with
  | nil => simp
  | cons event events ih =>
    obtain ⟨chain₁, hstep, hrest⟩ := h
    obtain ⟨hbetween, hsorted⟩ := ih hrest
    have hadvance : chain.blockNumber ≤ chain₁.blockNumber := by
      have := hstep.books.blockNumber_eq.1
      omega
    have hconfig : chain₁.config = chain.config := hstep.books.config_eq
    have hlater : ∀ snapshot ∈ events.filterMap Event.snapshot?,
        chain.blockNumber ≤ snapshot.blockNumber ∧ snapshot.blockNumber ≤ chain'.blockNumber ∧
          Chain.timestampAt chain.config snapshot.blockNumber = .ok snapshot.timestamp := by
      intro snapshot hmem
      obtain ⟨hlow, hhigh, htime⟩ := hbetween snapshot hmem
      exact ⟨hadvance.trans hlow, hhigh, hconfig ▸ htime⟩
    rcases hevent : event.snapshot? with _ | snapshot
    · rw [List.filterMap_cons_none hevent]
      exact ⟨hlater, hsorted⟩
    · obtain ⟨hof, hkeep⟩ := hstep.snapshot hevent
      rw [hkeep] at hrest
      obtain ⟨hblock, htime⟩ := Chain.snapshotOf_eq_ok hof
      have hend : chain.blockNumber ≤ chain'.blockNumber := (Runs.receipt_blocks hrest).1
      rw [List.filterMap_cons_some hevent, List.map_cons, List.pairwise_cons]
      refine ⟨?_, ?_, hsorted⟩
      · intro snapshot' hmem
        rcases List.mem_cons.1 hmem with rfl | hmem
        · exact ⟨hblock.ge, hblock ▸ hend, hblock ▸ htime⟩
        · exact hlater snapshot' hmem
      · intro b hb
        obtain ⟨snapshot', hmem, rfl⟩ := List.mem_map.1 hb
        exact hblock ▸ (hlater snapshot' hmem).1

/-- The snapshot answers the latest block when its timestamp is a 64-bit number. -/
theorem latestBlock_answers (chain : Chain)
    (hfits : chain.config.genesisTimestamp + chain.blockNumber * chain.config.blockIntervalMs ≤
      u64Max) :
    Ends latestBlock chain
      (.ok
        { chainId := chain.config.chainId, blockNumber := chain.blockNumber,
          timestamp :=
            chain.config.genesisTimestamp + chain.blockNumber * chain.config.blockIntervalMs / 1000,
          coinbase := sequencerCoinbase, gasLimit := chain.config.gasLimit })
      chain := by
  have hdiv : chain.blockNumber * chain.config.blockIntervalMs / 1000 ≤
      chain.blockNumber * chain.config.blockIntervalMs := Nat.div_le_self _ _
  have hmul : U64.checkedMul chain.blockNumber chain.config.blockIntervalMs =
      .ok (chain.blockNumber * chain.config.blockIntervalMs) := if_pos (by omega)
  have hadd : U64.checkedAdd chain.config.genesisTimestamp
      (chain.blockNumber * chain.config.blockIntervalMs / 1000) =
      .ok (chain.config.genesisTimestamp +
        chain.blockNumber * chain.config.blockIntervalMs / 1000) := if_pos (by omega)
  have htime : Chain.timestampAt chain.config chain.blockNumber =
      .ok (chain.config.genesisTimestamp +
        chain.blockNumber * chain.config.blockIntervalMs / 1000) := by
    unfold Chain.timestampAt
    rw [hmul]
    exact hadd
  have hsnapshot : chain.snapshotOf = .ok
      { chainId := chain.config.chainId, blockNumber := chain.blockNumber,
        timestamp :=
          chain.config.genesisTimestamp + chain.blockNumber * chain.config.blockIntervalMs / 1000,
        coinbase := sequencerCoinbase, gasLimit := chain.config.gasLimit } := by
    simp only [Chain.snapshotOf, htime]
    rfl
  exact (ends_getThe chain).bind_ok (ends_checked hsnapshot _)

/-! ### Balances -/

/-- The balance of an account, zero for an account the chain does not know. -/
def Chain.balance (chain : Chain) (account : Address) : Word :=
  (chain.balances.get? account).getD Word.zero

/-- A balance read answers the account's balance. -/
theorem ends_balanceOf (chain : Chain) (account : Address) :
    Ends (balanceOf account) chain (.ok (chain.balance account)) chain :=
  (ends_getThe chain).bind_ok (ends_pure _ _)

theorem Word.toNat_ofNatWrap_sub (w : Word) (fee : Nat) :
    (Word.ofNatWrap (w.toNat - fee)).toNat = w.toNat - min w.toNat fee := by
  have hlt : w.toNat - fee < wordBound := lt_of_le_of_lt (Nat.sub_le _ _) w.isLt
  rw [Word.toNat_ofNatWrap hlt]
  omega

/-- An included transaction charges its sender the fee, never below zero; every other balance,
and every balance at an event that includes nothing, stays. -/
theorem Event.Books.balance (h : event.Books chain chain') (account : Address) :
    (∀ receipt data, event.receipt? = some receipt → event.signed? = some (account, data) →
      (chain'.balance account).toNat = (chain.balance account).toNat -
        min (chain.balance account).toNat (receipt.gasUsed * chain.config.gasPriceWei)) ∧
    ((∀ receipt, event.receipt? = some receipt → event.signed?.map Prod.fst ≠ some account) →
      chain'.balance account = chain.balance account) := by
  cases h with
  | idle _ hreceipt => exact ⟨fun _ _ h => by simp [hreceipt] at h, fun _ => rfl⟩
  | numbered _ hreceipt => exact ⟨fun _ _ h => by simp [hreceipt] at h, fun _ => rfl⟩
  | @included source data receipt gasUsed contracts calls revert drop stale hsigned _ hreceipt _
      hgas =>
    refine ⟨fun receipt' data' hreceipt' hsigned' => ?_, fun hother => ?_⟩
    · rw [hsigned, Option.some.injEq, Prod.mk.injEq] at hsigned'
      obtain ⟨rfl, -⟩ := hsigned'
      rw [hreceipt, Option.some.injEq] at hreceipt'
      subst hreceipt'
      simp only [Chain.balance, Chain.balances_includeFrom, Table.get?_update, if_true,
        Option.getD_some, hgas]
      exact Word.toNat_ofNatWrap_sub _ _
    · have hne : source ≠ account := by
        intro hsame
        exact hother receipt hreceipt (by simp [hsigned, hsame])
      simp [Chain.balance, hne]

/-! ### Every run -/

/-- Along every run from a fresh chain: the block number is the number of included
transactions, whose receipts name the blocks `1, 2, …` in order, and it is the sum of all
nonces; the snapshots read never go back, in block or in time; the next snapshot answers the
latest block when its timestamp is a 64-bit number; and the next event changes a balance only
when it is an included transaction of the account, by the fee or by all of the balance when the
fee is larger. -/
theorem run_blocks_nonces_fees (config : Config) (events : List Event) (chain : Chain)
    (hrun : Runs (Chain.create config) events chain) :
    (events.filterMap Event.receipt?).length = chain.blockNumber ∧
    (events.filterMap Event.receipt?).map Receipt.blockNumber = List.range' 1 chain.blockNumber ∧
    chain.blockNumber = chain.nonces.values.sum ∧
    ((events.filterMap Event.snapshot?).map BlockSnapshot.blockNumber).Pairwise (· ≤ ·) ∧
    ((events.filterMap Event.snapshot?).map BlockSnapshot.timestamp).Pairwise (· ≤ ·) ∧
    (config.genesisTimestamp + chain.blockNumber * config.blockIntervalMs ≤ u64Max →
      Ends latestBlock chain
        (.ok
          { chainId := config.chainId, blockNumber := chain.blockNumber,
            timestamp := config.genesisTimestamp + chain.blockNumber * config.blockIntervalMs / 1000,
            coinbase := sequencerCoinbase, gasLimit := config.gasLimit })
        chain) ∧
    (∀ (event : Event) (chain' : Chain), event.Step chain chain' → ∀ account,
      (∀ receipt data, event.receipt? = some receipt → event.signed? = some (account, data) →
        (chain'.balance account).toNat = (chain.balance account).toNat -
          min (chain.balance account).toNat (receipt.gasUsed * config.gasPriceWei)) ∧
      ((∀ receipt, event.receipt? = some receipt → event.signed?.map Prod.fst ≠ some account) →
        chain'.balance account = chain.balance account)) := by
  have hconfig : chain.config = config := hrun.config_eq
  obtain ⟨-, hreceipts⟩ := Runs.receipt_blocks hrun
  simp only [show (Chain.create config).blockNumber = 0 from rfl, Nat.sub_zero] at hreceipts
  have hcount : chain.NoncesCount :=
    Runs.invariant (fun _ _ _ hc hstep => hstep.books.noncesCount hc) hrun
      (Chain.noncesCount_create config)
  obtain ⟨hbetween, hsorted⟩ := Runs.snapshots hrun
  have htimes : ((events.filterMap Event.snapshot?).map BlockSnapshot.timestamp).Pairwise (· ≤ ·) := by
    rw [List.pairwise_map] at hsorted ⊢
    refine hsorted.imp_of_mem fun {s s'} hs hs' hle => ?_
    exact Chain.timestampAt_mono hle (hbetween s hs).2.2 (hbetween s' hs').2.2
  refine ⟨by simpa using congrArg List.length hreceipts, hreceipts, hcount.blocks_eq, hsorted,
    htimes, fun hfits => ?_, fun event chain' hstep account => ?_⟩
  · subst hconfig
    exact latestBlock_answers chain hfits
  · rw [← hconfig]
    exact hstep.books.balance account

/-- A creation followed by a snapshot on a fresh chain: the creation's receipt names block `1`,
the nonces add up to that one block, and the snapshot reads block `1`. -/
theorem creation_then_snapshot_counted :
    ∃ r snapshot chain,
      Runs (Chain.create {}) [adminOneCreation r, .call (.snapshot (.ok snapshot))] chain ∧
      ([adminOneCreation r, .call (.snapshot (.ok snapshot))].filterMap Event.receipt?).map
        Receipt.blockNumber = [1] ∧
      chain.nonces.values.sum = 1 ∧ snapshot.blockNumber = 1 := by
  have hsigner := Chain.create_signers_contains (show 0 < ({} : Config).signerCount by decide)
  obtain ⟨r, chain₁, hstep, -, -, -, hconfig, -, hblock, -⟩ :=
    @adminOneCreation_creates (Chain.create {}) hsigner rfl rfl rfl
  have hfits : chain₁.config.genesisTimestamp +
      chain₁.blockNumber * chain₁.config.blockIntervalMs ≤ u64Max := by
    rw [hconfig, hblock]
    decide
  have hrun : Runs (Chain.create {}) [adminOneCreation r, .call (.snapshot (.ok _))] chain₁ :=
    ⟨chain₁, hstep, chain₁, (latestBlock_answers chain₁ hfits).answers, rfl⟩
  obtain ⟨-, hreceipts, hnonces, -⟩ := run_blocks_nonces_fees {} _ chain₁ hrun
  rw [hblock] at hreceipts hnonces
  exact ⟨r, _, chain₁, hrun, hreceipts, hnonces.symm, hblock⟩

end Sim

end NftProbe
