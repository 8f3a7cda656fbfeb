import NftProbe.Proofs.Sim.Runs
import NftProbe.Proofs.Abi.RoundTrip

/-!
# Addresses and transaction hashes are never handed out twice

The simulated chain derives a contract's address from the 28 bytes of its creator and the
creator's nonce (`creationPreimage`), and a transaction's hash from its sender, its number and its
data (`transactionPreimage`), both through Keccak-256. Whether two of them can agree is therefore
a question about the preimages: the chain never uses one preimage twice, so two equal addresses or
hashes need Keccak-256 to map two different preimages to one value (`AddressClash`, `HashClash`).

The argument is an accounting one. Each account's nonce counts its included transactions and
never goes down (`Chain.Advances`), and every contract the chain holds stands at the address of a
creation whose nonce its creator has since passed (`Chain.Counted`). A creation uses the creator's
current nonce and moves it on, so a later creation from the same account uses a larger one; a
dropped creation moves no nonce but creates nothing either. Every transaction that answers a hash
takes the next number of the transaction count, which never goes down, so two such transactions
have different numbers. Nonces and numbers are 64-bit in the chain, and while the transaction
count stays below 2^64 every nonce does too, so different numbers give different preimages
(`creationPreimage_ne`, `transactionPreimage_ne`). A creation address that already holds a
contract therefore does so through a clash (`Chain.Counted.clash_of_contains`).

The chain adds one to these counters without a check. An event takes at most one number, so
from a fresh chain a run of fewer than 2^64 events keeps the transaction count, the block
number and every nonce 64-bit numbers (`Runs.counters_fit`), and the additions never wrap.
-/

set_option autoImplicit false

namespace NftProbe.Sim

open Abi Contract

/-! ### Preimages -/

/-- The 28 bytes a contract address is cut from: the creator, then its nonce in eight bytes. -/
def creationPreimage (source : Address) (nonce : Nat) : Bytes :=
  source.toBytes ++ Bytes.ofNat 8 nonce

/-- The bytes a transaction's hash is taken of: the sender, the transaction's number in eight
bytes, and its data. -/
def transactionPreimage (source : Address) (count : Nat) (data : Bytes) : Bytes :=
  creationPreimage source count ++ data

theorem contractAddress_eq (source : Address) (nonce : Nat) :
    contractAddress source nonce =
      Address.ofBytes ((Keccak.hash (creationPreimage source nonce)).drop 12) := rfl

theorem transactionHash_eq (source : Address) (count : Nat) (data : Bytes) :
    transactionHash source count data =
      Hash32.ofBytes (Keccak.hash (transactionPreimage source count data)) := by
  simp [transactionHash, transactionPreimage, creationPreimage]

/-- Two different creation preimages that give the contract address `address`. -/
def AddressClash (address : Address) : Prop :=
  ∃ source nonce source' nonce',
    creationPreimage source nonce ≠ creationPreimage source' nonce' ∧
      contractAddress source nonce = address ∧ contractAddress source' nonce' = address

/-- Two different transaction preimages whose hash is `txHash`. -/
def HashClash (txHash : Hash32) : Prop :=
  ∃ source count data source' count' data',
    transactionPreimage source count data ≠ transactionPreimage source' count' data' ∧
      transactionHash source count data = txHash ∧ transactionHash source' count' data' = txHash

theorem Bytes.ofNat_inj {width n m : Nat} (hn : n < 256 ^ width) (hm : m < 256 ^ width)
    (h : Bytes.ofNat width n = Bytes.ofNat width m) : n = m := by
  have hnat := congrArg Bytes.toNat h
  rwa [Bytes.toNat_ofNat, Bytes.toNat_ofNat, Nat.mod_eq_of_lt hn, Nat.mod_eq_of_lt hm] at hnat

theorem Address.toBytes_inj {a b : Address} (h : a.toBytes = b.toBytes) : a = b := by
  obtain ⟨n, hn⟩ := a
  obtain ⟨m, hm⟩ := b
  have hbound : addressBound = 256 ^ 20 := rfl
  obtain rfl : n = m := Bytes.ofNat_inj (hbound ▸ hn) (hbound ▸ hm) h
  rfl

/-- Two creators and 64-bit nonces that are not both the same give different preimages: the
creator fills the first 20 bytes of both, so the two parts agree one by one. -/
theorem creationPreimage_ne {source source' : Address} {nonce nonce' : Nat}
    (hne : source ≠ source' ∨ nonce ≠ nonce') (hnonce : nonce ≤ u64Max) (hnonce' : nonce' ≤ u64Max) :
    creationPreimage source nonce ≠ creationPreimage source' nonce' := by
  intro h
  have hlength : source.toBytes.length = source'.toBytes.length := by
    simp [Address.toBytes]
  obtain ⟨hsource, hbytes⟩ := List.append_inj h hlength
  have hbound : u64Max < 256 ^ 8 := by decide
  rcases hne with hne | hne
  · exact hne (Address.toBytes_inj hsource)
  · exact hne (Bytes.ofNat_inj (by omega) (by omega) hbytes)

/-- Two 64-bit transaction numbers that differ give different preimages, whatever the senders
and the data. -/
theorem transactionPreimage_ne {source source' : Address} {count count' : Nat} {data data' : Bytes}
    (hne : count ≠ count') (hcount : count ≤ u64Max) (hcount' : count' ≤ u64Max) :
    transactionPreimage source count data ≠ transactionPreimage source' count' data' := by
  intro h
  have hlength : (creationPreimage source count).length =
      (creationPreimage source' count').length := by
    simp [creationPreimage, Address.toBytes]
  exact creationPreimage_ne (.inr hne) hcount hcount' (List.append_inj h hlength).1

/-! ### What the books keep -/

/-- What a later state of a chain keeps of an earlier one: the transaction count and every nonce
never go down, and no contract is removed. -/
structure Chain.Advances (chain chain' : Chain) : Prop where
  txCount_le : chain.txCount ≤ chain'.txCount
  nonce_le : ∀ account, chain.nonce account ≤ chain'.nonce account
  contains : ∀ address, chain.contracts.contains address = true →
    chain'.contracts.contains address = true

theorem Chain.Advances.refl (chain : Chain) : chain.Advances chain :=
  ⟨le_refl _, fun _ => le_refl _, fun _ h => h⟩

theorem Chain.Advances.trans {chain₁ chain₂ chain₃ : Chain} (h₁ : chain₁.Advances chain₂)
    (h₂ : chain₂.Advances chain₃) : chain₁.Advances chain₃ :=
  ⟨h₁.txCount_le.trans h₂.txCount_le, fun a => (h₁.nonce_le a).trans (h₂.nonce_le a),
    fun a h => h₂.contains a (h₁.contains a h)⟩

/-- What the books of a chain keep from a fresh start: no more blocks than numbers handed out, no
nonce above the number of blocks, and every contract at the address of a creation whose nonce
its creator has since passed. -/
structure Chain.Counted (chain : Chain) : Prop where
  blocks_le : chain.blockNumber ≤ chain.txCount
  nonce_le : ∀ account, chain.nonce account ≤ chain.blockNumber
  created : ∀ address, chain.contracts.contains address = true →
    ∃ source nonce, contractAddress source nonce = address ∧ nonce < chain.nonce source

variable {chain chain' : Chain} {event : Event}

theorem ContractsMove.contains {source : Address} {contracts : Table Address Collection}
    (h : ContractsMove chain source event contracts) (address : Address) :
    contracts.contains address = true ↔
      chain.contracts.contains address = true ∨
        (event.created? = some address ∧ chain.creationAddress source = address) := by
  cases h with
  | keep hcreated => simp [hcreated]
  | @replace target c hcreated htarget =>
    by_cases haddress : target = address
    · subst haddress
      simp [htarget]
    · simp [haddress, hcreated]
  | create hcreated =>
    rw [hcreated, Table.contains_insert]
    by_cases haddress : chain.creationAddress source = address <;> simp [haddress]

theorem Event.Books.advances (h : event.Books chain chain') : chain.Advances chain' := by
  cases h with
  | idle => exact ⟨le_refl _, fun _ => le_refl _, fun _ h => h⟩
  | numbered => exact ⟨Nat.le_succ _, fun _ => le_refl _, fun _ h => h⟩
  | @included source data receipt gasUsed contracts calls revert drop stale _ _ _ _ _ hmove =>
    refine ⟨Nat.le_succ _, fun account => ?_, fun address h => ?_⟩
    · by_cases hsame : source = account
      · subst hsame
        simp [Chain.nonce]
      · simp [Chain.nonce, hsame]
    · simpa [hmove.contains] using Or.inl h

/-- An event keeps the books counted: it adds at most one block, moves at most one nonce on, by
one, and a contract it creates stands at its creator's nonce before it moved on. -/
theorem Event.Books.counted (h : event.Books chain chain') (hc : chain.Counted) : chain'.Counted := by
  cases h with
  | idle => exact ⟨hc.blocks_le, hc.nonce_le, hc.created⟩
  | numbered => exact ⟨Nat.le_succ_of_le hc.blocks_le, hc.nonce_le, hc.created⟩
  | @included source data receipt gasUsed contracts calls revert drop stale _ _ _ _ _ hmove =>
    refine ⟨by simpa using hc.blocks_le, fun account => ?_,
      fun address haddress => ?_⟩
    · have hnonce := hc.nonce_le account
      by_cases hsame : source = account
      · subst hsame
        simp only [Chain.nonce] at hnonce
        simp [Chain.nonce, hnonce]
      · simp only [Chain.nonce] at hnonce
        simp [Chain.nonce, hsame]
        omega
    · simp only [Chain.contracts_includeFrom] at haddress
      rcases (hmove.contains address).1 haddress with hold | ⟨-, hnew⟩
      · obtain ⟨s, n, haddr, hn⟩ := hc.created address hold
        refine ⟨s, n, haddr, ?_⟩
        simp only [Chain.nonce] at hn
        by_cases hsame : source = s
        · subst hsame
          simp [Chain.nonce]
          omega
        · simp [Chain.nonce, hsame, hn]
      · refine ⟨source, chain.nonce source, hnew, ?_⟩
        simp [Chain.nonce]

theorem Chain.counted_create (config : Config) : (Chain.create config).Counted where
  blocks_le := le_refl _
  nonce_le account := by simp [Chain.create, Chain.nonce, Table.get?]
  created address h := by simp [Chain.create, Table.contains] at h

theorem Runs.advances {events : List Event} (h : Runs chain events chain') : chain.Advances chain' :=
  Runs.lift Chain.Advances.refl (fun _ _ _ => Chain.Advances.trans)
    (fun _ _ _ hstep => hstep.books.advances) h

theorem Runs.counted {config : Config} {events : List Event}
    (h : Runs (Chain.create config) events chain) : chain.Counted :=
  Runs.invariant (fun _ _ _ hc hstep => hstep.books.counted hc) h (Chain.counted_create config)

/-- Every nonce of a counted chain is at most its transaction count. -/
theorem Chain.Counted.nonce_le_txCount (hc : chain.Counted) (account : Address) :
    chain.nonce account ≤ chain.txCount :=
  (hc.nonce_le account).trans hc.blocks_le

/-- On a counted chain whose transaction count is a 64-bit number, the creation address of an
account holds a contract only through a clash: that contract stands at a creation whose nonce
its creator has since passed, a preimage other than the account's with its current nonce. -/
theorem Chain.Counted.clash_of_contains (hc : chain.Counted) (hfits : chain.txCount ≤ u64Max)
    {source : Address}
    (hcontains : chain.contracts.contains (chain.creationAddress source) = true) :
    AddressClash (chain.creationAddress source) := by
  obtain ⟨source₀, nonce₀, haddress₀, hnonce₀⟩ := hc.created _ hcontains
  have hbound₀ : nonce₀ ≤ u64Max := by
    have := hc.nonce_le_txCount source₀
    omega
  refine ⟨source₀, nonce₀, source, chain.nonce source, ?_, haddress₀, rfl⟩
  refine creationPreimage_ne ?_ hbound₀ ((hc.nonce_le_txCount source).trans hfits)
  by_cases hsame : source₀ = source
  · subst hsame
    exact .inr (Nat.ne_of_lt hnonce₀)
  · exact .inl hsame

/-! ### The counters stay 64-bit -/

/-- An event takes at most one transaction number. -/
theorem Event.Books.txCount_le (h : event.Books chain chain') :
    chain'.txCount ≤ chain.txCount + 1 := by
  cases h <;> simp

/-- A run takes at most one transaction number per event. -/
theorem Runs.txCount_le_length {events : List Event} (h : Runs chain events chain') :
    chain'.txCount ≤ chain.txCount + events.length := by
  induction events generalizing chain with
  | nil =>
    rw [runs_nil] at h
    subst h
    simp
  | cons event events ih =>
    obtain ⟨chain₁, hstep, hrest⟩ := h
    have hfirst := hstep.books.txCount_le
    have hrest := ih hrest
    simp only [List.length_cons]
    omega

/-- The chain adds one to its transaction count, its block number and a nonce without a check.
From a fresh chain, fewer than 2^64 events keep all three 64-bit numbers. -/
theorem Runs.counters_fit {config : Config} {events : List Event}
    (h : Runs (Chain.create config) events chain) (hlength : events.length ≤ u64Max) :
    chain.txCount ≤ u64Max ∧ chain.blockNumber ≤ u64Max ∧
      ∀ account, chain.nonce account ≤ u64Max := by
  have hc := h.counted
  have hcount : chain.txCount ≤ u64Max := by
    have hstart : (Chain.create config).txCount = 0 := rfl
    have := h.txCount_le_length
    omega
  exact ⟨hcount, hc.blocks_le.trans hcount,
    fun account => (hc.nonce_le_txCount account).trans hcount⟩

/-! ### What a creation and a numbered transaction use -/

/-- A creation that reports an address put its contract at its creator's creation address, and
moved the creator's nonce on. -/
theorem Event.Books.created {address : Address} (h : event.Books chain chain')
    (hcreated : event.created? = some address) :
    ∃ source, chain.creationAddress source = address ∧
      chain'.nonce source = chain.nonce source + 1 := by
  cases h with
  | idle _ _ hnone => simp [hnone] at hcreated
  | numbered _ _ hnone => simp [hnone] at hcreated
  | @included source data receipt gasUsed contracts calls revert drop stale _ _ _ _ _ hmove =>
    cases hmove with
    | keep hnone => simp [hnone] at hcreated
    | replace hnone => simp [hnone] at hcreated
    | create hcreate =>
      rw [hcreate, Option.some.injEq] at hcreated
      exact ⟨source, hcreated, by simp [Chain.nonce]⟩

/-- A transaction that answers a hash was given the next number, and the hash is the hash of
that number with its sender and data. -/
theorem Event.Books.hashed {txHash : Hash32} (h : event.Books chain chain')
    (hhash : event.txHash? = some txHash) :
    ∃ source data, txHash = transactionHash source (chain.txCount + 1) data ∧
      chain'.txCount = chain.txCount + 1 := by
  cases h with
  | idle hnone => simp [hnone] at hhash
  | numbered hnumbered =>
    obtain ⟨source, data, -, heq⟩ := hnumbered txHash hhash
    exact ⟨source, data, heq, rfl⟩
  | included _ hincluded =>
    rw [hincluded, Option.some.injEq] at hhash
    exact ⟨_, _, hhash.symm, rfl⟩

/-! ### Every run -/

/-- A creation at `chain₁` and a later one at `chain₃`, on a counted chain: their creators'
nonces there form different preimages. -/
theorem creation_preimages_differ {chain₁ chain₂ chain₃ chain₄ : Chain} {e e' : Event}
    {a a' : Address} (hstep : e.Step chain₁ chain₂)
    (hmid : chain₂.Advances chain₃) (hstep' : e'.Step chain₃ chain₄) (hc₃ : chain₃.Counted)
    (hfits : chain₃.txCount ≤ u64Max) (hcreated : e.created? = some a)
    (hcreated' : e'.created? = some a') :
    ∃ source nonce source' nonce',
      creationPreimage source nonce ≠ creationPreimage source' nonce' ∧
        contractAddress source nonce = a ∧ contractAddress source' nonce' = a' := by
  obtain ⟨source, haddress, hnonce⟩ := hstep.books.created hcreated
  obtain ⟨source', haddress', -⟩ := hstep'.books.created hcreated'
  have hlater : chain₁.nonce source < chain₃.nonce source := by
    have := hmid.nonce_le source
    omega
  have hfirst : chain₁.nonce source ≤ u64Max := by
    have := hc₃.nonce_le_txCount source
    omega
  refine ⟨source, chain₁.nonce source, source', chain₃.nonce source', ?_, haddress, haddress'⟩
  refine creationPreimage_ne ?_ hfirst ((hc₃.nonce_le_txCount source').trans hfits)
  by_cases hsame : source = source'
  · subst hsame
    exact .inr (Nat.ne_of_lt hlater)
  · exact .inl hsame

/-- Two creations from a fresh chain that report one address do so only through a clash of the
address derivation; a creation lands on an address that already holds a contract only through one;
and two transactions that answer one hash do so only through a clash of the hash. This holds
for every run whose transaction count stays a 64-bit number, as the chain's counter is. -/
theorem run_identities_unique (config : Config) (events : List Event) (chain : Chain)
    (hrun : Runs (Chain.create config) events chain) (hfits : chain.txCount ≤ u64Max) :
    (∀ pre e mid e' post a a', events = pre ++ e :: mid ++ e' :: post →
      e.created? = some a → e'.created? = some a' → a = a' → AddressClash a) ∧
    (∀ pre e post chain₁ chain₂ a, events = pre ++ e :: post →
      Runs (Chain.create config) pre chain₁ → e.Step chain₁ chain₂ → e.created? = some a →
        chain₁.contracts.contains a = true → AddressClash a) ∧
    (∀ pre e mid e' post h h', events = pre ++ e :: mid ++ e' :: post →
      e.txHash? = some h → e'.txHash? = some h' → h = h' → HashClash h) := by
  refine ⟨?_, ?_, ?_⟩
  · intro pre e mid e' post a a' hevents hcreated hcreated' hsame
    subst hevents hsame
    obtain ⟨chain₃, chain₄, hfront, hstep', hpost⟩ := Runs.split hrun
    obtain ⟨chain₁, chain₂, hpre, hstep, hmid⟩ := Runs.split hfront
    have hc₂ : chain₂.Counted := hstep.books.counted hpre.counted
    have hc₃ : chain₃.Counted := Runs.invariant (fun _ _ _ hc hs => hs.books.counted hc) hmid hc₂
    have hfits₃ : chain₃.txCount ≤ u64Max :=
      ((hstep'.books.advances.trans hpost.advances).txCount_le).trans hfits
    exact creation_preimages_differ hstep hmid.advances hstep' hc₃ hfits₃
      hcreated hcreated'
  · intro pre e post chain₁ chain₂ a hevents hpre hstep hcreated hcontains
    subst hevents
    obtain ⟨chain₁', chain₂', hpre', hstep', hpost⟩ := Runs.split hrun
    obtain rfl := Runs.unique hpre hpre'
    obtain rfl := hstep.unique hstep'
    have hfits₁ : chain₁.txCount ≤ u64Max :=
      ((hstep.books.advances.trans hpost.advances).txCount_le).trans hfits
    obtain ⟨source, rfl, -⟩ := hstep.books.created hcreated
    exact hpre.counted.clash_of_contains hfits₁ hcontains
  · intro pre e mid e' post h h' hevents hhash hhash' hsame
    subst hevents hsame
    obtain ⟨chain₃, chain₄, hfront, hstep', hpost⟩ := Runs.split hrun
    obtain ⟨chain₁, chain₂, hpre, hstep, hmid⟩ := Runs.split hfront
    obtain ⟨source, data, hh, hcount⟩ := hstep.books.hashed hhash
    obtain ⟨source', data', hh', hcount'⟩ := hstep'.books.hashed hhash'
    have hlater : chain₂.txCount ≤ chain₃.txCount := hmid.advances.txCount_le
    have hlast : chain₄.txCount ≤ chain.txCount := hpost.advances.txCount_le
    refine ⟨source, chain₁.txCount + 1, data, source', chain₃.txCount + 1, data', ?_, hh.symm,
      hh'.symm⟩
    exact transactionPreimage_ne (by omega) (by omega) (by omega)

/-- Two creations in a row by the first signer of a fresh chain, each of a contract administered
by `1`: both create a contract, and if they report one address or answer one hash, the
derivation clashes there. -/
theorem two_creations_distinct :
    ∃ r₁ r₂ chain, Runs (Chain.create {}) [adminOneCreation r₁, adminOneCreation r₂] chain ∧
      chain.txCount ≤ u64Max ∧ (adminOneCreation r₁).created?.isSome ∧
      (adminOneCreation r₂).created?.isSome ∧
      (∀ a a', (adminOneCreation r₁).created? = some a → (adminOneCreation r₂).created? = some a' →
        a = a' → AddressClash a) ∧
      (∀ h h', (adminOneCreation r₁).txHash? = some h → (adminOneCreation r₂).txHash? = some h' →
        h = h' → HashClash h) := by
  have hsigner := Chain.create_signers_contains (show 0 < ({} : Config).signerCount by decide)
  obtain ⟨r₁, chain₁, hstep₁, hsigners₁, hdrop₁, hrevert₁, hconfig₁, hcount₁, -, hcreated₁⟩ :=
    @adminOneCreation_creates (Chain.create {}) hsigner rfl rfl rfl
  obtain ⟨r₂, chain₂, hstep₂, -, -, -, -, hcount₂, -, hcreated₂⟩ :=
    adminOneCreation_creates (hsigners₁ ▸ hsigner) hdrop₁ hrevert₁ (by rw [hconfig₁]; rfl)
  have hrun : Runs (Chain.create {}) [adminOneCreation r₁, adminOneCreation r₂] chain₂ :=
    ⟨chain₁, hstep₁, chain₂, hstep₂, rfl⟩
  have hfits : chain₂.txCount ≤ u64Max := by
    rw [hcount₂, hcount₁]
    decide
  have hunique := run_identities_unique {} _ chain₂ hrun hfits
  exact ⟨r₁, r₂, chain₂, hrun, hfits, hcreated₁, hcreated₂,
    fun a a' => hunique.1 [] _ [] _ [] a a' rfl,
    fun h h' => hunique.2.2 [] _ [] _ [] h h' rfl⟩

end NftProbe.Sim
