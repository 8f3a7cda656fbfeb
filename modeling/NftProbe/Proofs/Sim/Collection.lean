import NftProbe.Sim.Chain
import Mathlib.Logic.Relation

/-!
# What a transaction does to a collection

A successful transaction of the token contract makes changes of three kinds only
(`Collection.Change`): it mints the next token to a nonzero address, moves a minted token to a
nonzero address, or approves an account for a minted token. `execute_changes` proves that every
successful `execute` is a sequence of such changes, and `premint_changes` that the initial supply
of a creation is a sequence of mints.

Two facts then hold of every contract. A sound collection (`Collection.Sound`) stays sound
(`Change.sound`): its minted ids are exactly `1, …, nextTokenId - 1`, each has an owner other
than zero and a URI, the supply counts them, approvals and remembered owners name only minted
ids, and no operator is set. And a change keeps the admin, never lowers the next id and never
takes a minted token out of the owners (`Change.grows`), so neither does any sequence of
transactions (`Grows.of_executions`).
-/

set_option autoImplicit false

namespace NftProbe.Sim

open Contract Abi

variable {α β : Type}

/-! ### Reverting computations -/

/-- A bound computation that succeeded: its first part succeeded, and the rest with its value. -/
theorem Reverting.run_bind_eq_ok {x : Reverting α} {f : α → Reverting β} {b : β}
    (h : (x >>= f).run = .ok (.ok b)) : ∃ a, x.run = .ok (.ok a) ∧ (f a).run = .ok (.ok b) := by
  simp only [ExceptT.run_bind] at h
  rcases hx : x.run with overflow | reason | a <;> rw [hx] at h
  · cases h
  · cases h
  · exact ⟨a, rfl, h⟩

@[simp] theorem orRevert_run (result : Except String α) : (orRevert result).run = .ok result :=
  rfl

@[simp] theorem revert_run (reason : String) : (revert reason : Reverting α).run = .ok (.error reason) :=
  rfl

@[simp] theorem reverting_pure_run (a : α) : (pure a : Reverting α).run = .ok (.ok a) :=
  rfl

theorem Address.ne_zero_of_isZero {a : Address} (h : a.isZero = false) : a ≠ Address.zero := by
  rintro rfl
  simp [Address.isZero, Address.zero] at h

/-! ### The changes -/

namespace Collection

/-- One change a successful transaction makes to a collection. -/
inductive Change (c : Collection) : Collection → Prop
  /-- The next token is minted. -/
  | mint {target : Address} {uri : String} {c' : Collection} {event : TransferEvent} :
      c.mint target uri = .ok (c', event) → Change c c'
  /-- A minted token moves to a nonzero address. Its approval is dropped, and its owner before
  the move may be remembered. -/
  | transfer {tokenId : Nat} {owner target : Address} {staleOwners : Table Nat Address} :
      c.owners.get? tokenId = some owner → target.isZero = false →
      (staleOwners = c.staleOwners ∨ staleOwners = c.staleOwners.insert tokenId owner) →
      Change c { c with
        approvals := c.approvals.erase tokenId, staleOwners,
        owners := c.owners.insert tokenId target }
  /-- An account is approved for a minted token. -/
  | approve {tokenId : Nat} {spender : Address} :
      c.owners.contains tokenId = true →
      Change c { c with approvals := c.approvals.insert tokenId spender }

/-- The shape of a collection that every contract keeps. -/
structure Sound (c : Collection) : Prop where
  owned_iff : ∀ k, c.owners.contains k = true ↔ 1 ≤ k ∧ k < c.nextTokenId
  described_iff : ∀ k, c.uris.contains k = true ↔ 1 ≤ k ∧ k < c.nextTokenId
  supply_succ : c.totalSupply + 1 = c.nextTokenId
  owner_ne_zero : ∀ k owner, c.owners.get? k = some owner → owner ≠ Address.zero
  approved_minted : ∀ k, c.approvals.contains k = true → c.owners.contains k = true
  remembered_minted : ∀ k, c.staleOwners.contains k = true → c.owners.contains k = true
  operators_eq : c.operators = []

/-- A sound contract stores an owner for each id below its next one, so its supply, one less
than that id, is at most the number of owners it stores. A mint adds one to both counters
without a check; they pass 2^64 - 1 only once as many tokens are stored. -/
theorem Sound.totalSupply_le_length {c : Collection} (hs : c.Sound) :
    c.totalSupply ≤ c.owners.length := by
  have hminted : List.range' 1 c.totalSupply ⊆ c.owners.map Prod.fst := by
    intro k hk
    have hrange : 1 ≤ k ∧ k < c.nextTokenId := by
      rw [List.mem_range'_1, Nat.add_comm, hs.supply_succ] at hk
      exact hk
    obtain ⟨entry, hentry, hkey⟩ := List.any_eq_true.1 ((hs.owned_iff k).2 hrange)
    exact List.mem_map.2 ⟨entry, hentry, by simpa using hkey⟩
  simpa using (List.nodup_range' 1).length_le_of_subset hminted

/-- What a contract keeps from one state to a later one. -/
structure Grows (c c' : Collection) : Prop where
  admin_eq : c'.admin = c.admin
  next_le : c.nextTokenId ≤ c'.nextTokenId
  owned : ∀ k, c.owners.contains k = true → c'.owners.contains k = true

theorem Grows.refl (c : Collection) : Grows c c :=
  ⟨rfl, Nat.le_refl _, fun _ h => h⟩

theorem Grows.trans {c₁ c₂ c₃ : Collection} (h₁ : Grows c₁ c₂) (h₂ : Grows c₂ c₃) :
    Grows c₁ c₃ :=
  ⟨h₂.admin_eq.trans h₁.admin_eq, Nat.le_trans h₁.next_le h₂.next_le,
    fun k hk => h₂.owned k (h₁.owned k hk)⟩

theorem sound_create (admin : Address) : (create admin).Sound where
  owned_iff k := by simp [create, Table.contains]; omega
  described_iff k := by simp [create, Table.contains]; omega
  supply_succ := rfl
  owner_ne_zero k owner h := by simp [create, Table.get?] at h
  approved_minted k h := by simp [create, Table.contains] at h
  remembered_minted k h := by simp [create, Table.contains] at h
  operators_eq := rfl

variable {c c' : Collection} {target : Address} {uri : String} {event : TransferEvent}

theorem mint_eq_ok (h : c.mint target uri = .ok (c', event)) :
    target.isZero = false ∧
      c' = { c with
        nextTokenId := c.nextTokenId + 1, totalSupply := c.totalSupply + 1,
        owners := c.owners.insert c.nextTokenId target,
        uris := c.uris.insert c.nextTokenId uri } := by
  unfold mint at h
  split at h
  · cases h
  · rename_i hzero
    cases h
    exact ⟨Bool.eq_false_iff.2 hzero, rfl⟩

theorem Sound.mint (hs : c.Sound) (h : c.mint target uri = .ok (c', event)) : c'.Sound := by
  obtain ⟨htarget, rfl⟩ := mint_eq_ok h
  have hnext : 1 ≤ c.nextTokenId := by have := hs.supply_succ; omega
  refine ⟨fun k => ?_, fun k => ?_, ?_, fun k owner hk => ?_, fun k hk => ?_, fun k hk => ?_,
    hs.operators_eq⟩
  · dsimp only
    rw [Table.contains_insert, Bool.or_eq_true, beq_iff_eq, hs.owned_iff k]
    omega
  · dsimp only
    rw [Table.contains_insert, Bool.or_eq_true, beq_iff_eq, hs.described_iff k]
    omega
  · simp [hs.supply_succ]
  · simp only [Table.get?_insert] at hk
    split at hk
    · cases hk
      exact Address.ne_zero_of_isZero htarget
    · exact hs.owner_ne_zero k owner hk
  · simp [hs.approved_minted k hk]
  · simp [hs.remembered_minted k hk]

theorem Grows.of_mint (h : c.mint target uri = .ok (c', event)) : Grows c c' := by
  obtain ⟨-, rfl⟩ := mint_eq_ok h
  exact ⟨rfl, Nat.le_succ _, fun k hk => by simp [hk]⟩

theorem Change.sound (hs : c.Sound) (h : Change c c') : c'.Sound := by
  cases h with
  | mint hmint => exact hs.mint hmint
  | @transfer tokenId owner target staleOwners howner htarget hstale =>
    have hminted : c.owners.contains tokenId = true := by
      simp [Table.contains_eq_isSome_get?, howner]
    have hkeys : ∀ k, (c.owners.insert tokenId target).contains k = c.owners.contains k := by
      intro k
      by_cases hk : tokenId = k
      · subst hk
        simp [hminted]
      · simp [hk]
    refine ⟨fun k => ?_, hs.described_iff, hs.supply_succ, fun k owner' hk => ?_, fun k hk => ?_,
      fun k hk => ?_, hs.operators_eq⟩
    · rw [hkeys]
      exact hs.owned_iff k
    · simp only [Table.get?_insert] at hk
      split at hk
      · cases hk
        exact Address.ne_zero_of_isZero htarget
      · exact hs.owner_ne_zero k owner' hk
    · simp only [Table.contains_erase, Bool.and_eq_true] at hk
      rw [hkeys]
      exact hs.approved_minted k hk.2
    · rw [hkeys]
      rcases hstale with rfl | rfl
      · exact hs.remembered_minted k hk
      · by_cases hkt : tokenId = k
        · subst hkt
          exact hminted
        · simp [hkt] at hk
          exact hs.remembered_minted k hk
  | @approve tokenId spender hminted =>
    refine ⟨hs.owned_iff, hs.described_iff, hs.supply_succ, hs.owner_ne_zero, fun k hk => ?_,
      hs.remembered_minted, hs.operators_eq⟩
    by_cases hkt : tokenId = k
    · subst hkt
      exact hminted
    · simp [hkt] at hk
      exact hs.approved_minted k hk

theorem Change.grows (h : Change c c') : Grows c c' := by
  cases h with
  | mint hmint => exact Grows.of_mint hmint
  | transfer => exact ⟨rfl, Nat.le_refl _, fun k hk => by simp [hk]⟩
  | approve => exact ⟨rfl, Nat.le_refl _, fun _ h => h⟩

/-- Soundness is kept along any sequence of changes. -/
theorem Sound.of_changes (hs : c.Sound) (h : Relation.ReflTransGen Change c c') : c'.Sound := by
  induction h with
  | refl => exact hs
  | tail _ hstep ih => exact hstep.sound ih

theorem Grows.of_changes (h : Relation.ReflTransGen Change c c') : Grows c c' := by
  induction h with
  | refl => exact Grows.refl c
  | tail _ hstep ih => exact ih.trans hstep.grows

/-! ### Transactions as changes -/

theorem get?_of_ownerOf {tokenId : Nat} {owner : Address} (h : c.ownerOf tokenId = .ok owner) :
    c.owners.get? tokenId = some owner := by
  unfold ownerOf at h
  split at h <;> simp_all

/-- A batch mints its recipients one after another, leaving the remembered owners alone. -/
theorem mintEach_changes {contract : Address} {items : List (Token × Token)} :
    ∀ {c c' : Collection} {logs : List LogEntry},
      (mintEach contract c items).run = .ok (.ok (c', logs)) →
        Relation.ReflTransGen Change c c' ∧ c'.staleOwners = c.staleOwners := by
  induction items with
  | nil =>
    intro c c' logs h
    simp only [mintEach, reverting_pure_run, Except.ok.injEq, Prod.mk.injEq] at h
    rw [h.1]
    exact ⟨.refl, rfl⟩
  | cons item rest ih =>
    intro c c' logs h
    obtain ⟨recipient, uri⟩ := item
    obtain ⟨target, -, h⟩ := Reverting.run_bind_eq_ok h
    obtain ⟨text, -, h⟩ := Reverting.run_bind_eq_ok h
    obtain ⟨⟨c₁, event⟩, hmint, h⟩ := Reverting.run_bind_eq_ok h
    obtain ⟨⟨c₂, logs₂⟩, hrest, h⟩ := Reverting.run_bind_eq_ok h
    simp only [orRevert_run, Except.ok.injEq] at hmint
    simp only [reverting_pure_run, Except.ok.injEq, Prod.mk.injEq] at h
    rw [← h.1]
    obtain ⟨hchanges, hstale⟩ := ih hrest
    refine ⟨.head (.mint hmint) hchanges, ?_⟩
    rw [hstale, (mint_eq_ok hmint).2]

/-- Every transaction the contract runs successfully either mints and approves, a sequence of
changes that leaves the remembered owners alone, or moves one minted token from its owner to a
nonzero address, dropping the token's approval and, while stale reads are on, remembering the
owner unless an earlier one is remembered. -/
theorem execute_cases {stale : Bool} {contract caller : Address} {calldata : Bytes}
    {logs : List LogEntry}
    (h : (execute stale contract caller calldata c).run = .ok (.ok (c', logs))) :
    (Relation.ReflTransGen Change c c' ∧ c'.staleOwners = c.staleOwners) ∨
      ∃ tokenId owner target, c.owners.get? tokenId = some owner ∧ target.isZero = false ∧
        c' = { c with
          approvals := c.approvals.erase tokenId
          staleOwners :=
            if stale && !c.staleOwners.contains tokenId then c.staleOwners.insert tokenId owner
            else c.staleOwners
          owners := c.owners.insert tokenId target } := by
  obtain ⟨⟨selector, args⟩, -, h⟩ := Reverting.run_bind_eq_ok h
  dsimp only at h
  split at h
  · obtain ⟨tokens, -, h⟩ := Reverting.run_bind_eq_ok h
    split at h
    · obtain ⟨uri, -, h⟩ := Reverting.run_bind_eq_ok h
      obtain ⟨target, -, h⟩ := Reverting.run_bind_eq_ok h
      obtain ⟨-, -, h⟩ := Reverting.run_bind_eq_ok h
      obtain ⟨⟨c₁, event⟩, hmint, h⟩ := Reverting.run_bind_eq_ok h
      simp only [orRevert_run, Except.ok.injEq] at hmint
      simp only [reverting_pure_run, Except.ok.injEq, Prod.mk.injEq] at h
      rw [← h.1]
      refine .inl ⟨.single (.mint hmint), ?_⟩
      rw [(mint_eq_ok hmint).2]
    · simp at h
  split at h
  · obtain ⟨tokens, -, h⟩ := Reverting.run_bind_eq_ok h
    split at h
    · obtain ⟨uris, -, h⟩ := Reverting.run_bind_eq_ok h
      obtain ⟨recipients, -, h⟩ := Reverting.run_bind_eq_ok h
      obtain ⟨-, -, h⟩ := Reverting.run_bind_eq_ok h
      split at h
      · simp at h
      split at h
      · simp at h
      · exact .inl (mintEach_changes h)
    · simp at h
  split at h
  · obtain ⟨tokens, -, h⟩ := Reverting.run_bind_eq_ok h
    split at h
    · obtain ⟨tokenId, -, h⟩ := Reverting.run_bind_eq_ok h
      obtain ⟨target, -, h⟩ := Reverting.run_bind_eq_ok h
      obtain ⟨source, -, h⟩ := Reverting.run_bind_eq_ok h
      obtain ⟨owner, howner, h⟩ := Reverting.run_bind_eq_ok h
      simp only [orRevert_run, Except.ok.injEq] at howner
      split at h
      · simp at h
      rename_i hsource
      split at h
      · simp at h
      split at h
      · simp at h
      rename_i htarget
      simp only [reverting_pure_run, Except.ok.injEq, Prod.mk.injEq] at h
      rw [← h.1]
      obtain rfl : owner = source := Decidable.not_not.1 hsource
      exact .inr ⟨tokenId, owner, target, get?_of_ownerOf howner, Bool.eq_false_iff.2 htarget, rfl⟩
    · simp at h
  split at h
  · obtain ⟨tokens, -, h⟩ := Reverting.run_bind_eq_ok h
    split at h
    · obtain ⟨tokenId, -, h⟩ := Reverting.run_bind_eq_ok h
      obtain ⟨spender, -, h⟩ := Reverting.run_bind_eq_ok h
      obtain ⟨owner, howner, h⟩ := Reverting.run_bind_eq_ok h
      simp only [orRevert_run, Except.ok.injEq] at howner
      split at h
      · simp at h
      simp only [reverting_pure_run, Except.ok.injEq, Prod.mk.injEq] at h
      rw [← h.1]
      refine .inl ⟨.single (.approve ?_), rfl⟩
      simp [Table.contains_eq_isSome_get?, get?_of_ownerOf howner]
    · simp at h
  · simp at h

/-- Every transaction the contract runs successfully is a sequence of changes. -/
theorem execute_changes {stale : Bool} {contract caller : Address} {calldata : Bytes}
    {logs : List LogEntry}
    (h : (execute stale contract caller calldata c).run = .ok (.ok (c', logs))) :
    Relation.ReflTransGen Change c c' := by
  rcases execute_cases h with ⟨hchanges, -⟩ | ⟨tokenId, owner, target, howner, htarget, rfl⟩
  · exact hchanges
  · refine .single (.transfer howner htarget ?_)
    split
    · exact .inr rfl
    · exact .inl rfl

/-- The initial supply of a creation is minted one token at a time, leaving the remembered owners
alone. -/
theorem premint_changes {contract admin : Address} {count : Nat} {logs : List LogEntry}
    (h : premint contract admin count c = .ok (c', logs)) :
    Relation.ReflTransGen Change c c' ∧ c'.staleOwners = c.staleOwners := by
  unfold premint at h
  generalize List.range count = indices at h
  generalize hacc : (c, ([] : List LogEntry)) = acc at h
  obtain rfl : acc.1 = c := by rw [← hacc]
  clear hacc
  induction indices generalizing acc with
  | nil =>
    cases h
    exact ⟨.refl, rfl⟩
  | cons index rest ih =>
    obtain ⟨c, logs₀⟩ := acc
    rw [List.foldlM_cons] at h
    dsimp only at h
    cases hmint : c.mint admin ("ipfs://premint/" ++ toString (index + 1)) with
    | error reason =>
      rw [hmint] at h
      cases h
    | ok minted =>
      obtain ⟨c₁, event⟩ := minted
      rw [hmint] at h
      obtain ⟨hchanges, hstale⟩ := ih _ h
      refine ⟨.head (.mint hmint) hchanges, ?_⟩
      rw [hstale, (mint_eq_ok hmint).2]

/-- A contract created with its initial supply is sound. -/
theorem sound_premint {contract admin : Address} {count : Nat} {logs : List LogEntry}
    (h : premint contract admin count (create admin) = .ok (c, logs)) : c.Sound :=
  (sound_create admin).of_changes (premint_changes h).1

/-- `c'` is what one transaction that `c` ran successfully left. -/
def Executes (c c' : Collection) : Prop :=
  ∃ stale contract caller calldata logs,
    (execute stale contract caller calldata c).run = .ok (.ok (c', logs))

theorem Executes.sound (hs : c.Sound) (h : Executes c c') : c'.Sound := by
  obtain ⟨stale, contract, caller, calldata, logs, hrun⟩ := h
  exact hs.of_changes (execute_changes hrun)

theorem Grows.of_executions (h : Relation.ReflTransGen Executes c c') : Grows c c' := by
  induction h with
  | refl => exact Grows.refl c
  | tail _ hstep ih =>
    obtain ⟨stale, contract, caller, calldata, logs, hrun⟩ := hstep
    exact ih.trans (Grows.of_changes (execute_changes hrun))

end Collection

end NftProbe.Sim
