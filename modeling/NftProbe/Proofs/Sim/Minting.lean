import NftProbe.Proofs.Sim.Runs
import NftProbe.Proofs.Sim.Constants
import NftProbe.Proofs.Abi.RoundTrip
import NftProbe.Run.Mint

/-!
# Minting on the simulated chain

A single mint names one recipient and one URI, a batch mint a list of each (`MintCall`). Sent by
a signer to a contract with no fault pending, either is included in a block, and the contract's
checks decide its status: the caller is the admin, there are as many URIs as recipients and at
least one, and no recipient is the zero address (`mint_receipt_decides`). A mint that passes
gives the recipients the ids from the contract's next id `n` on, in order, with their URIs
(`Minted`), and logs one transfer from zero per token (`mintTransfers`). Read back from the
receipt, the transfers are exactly those, and checked against the recipients they give the ids
`n, …, n + k - 1`, as long as these fit 64 bits.

The proof follows the contract's code. The dispatch reaches the body of the mint once its
arguments decode (`execute_safeMint_run`, `execute_batchMint_run`); the batch loop mints every
recipient or reverts as a whole (`mintEach_run`); and the logs read back one at a time
(`collectLogs_mintTransfers`, `verifyMintedFrom_mintTransfers`). Nothing here depends on the
rest of the chain's state, so it holds in every state a run reaches.
-/

set_option autoImplicit false

namespace NftProbe.Sim

open Abi Contract Run

/-! ### The transfers of a mint -/

/-- The transfers that mint `recipients` their tokens from id `n` on, in order. -/
def mintTransfers : Nat → List Address → List TransferEvent
  | _, [] => []
  | n, recipient :: rest =>
    { source := Address.zero, target := recipient, tokenId := n } :: mintTransfers (n + 1) rest

@[simp] theorem length_mintTransfers (n : Nat) (recipients : List Address) :
    (mintTransfers n recipients).length = recipients.length := by
  induction recipients generalizing n with
  | nil => rfl
  | cons recipient rest ih => simp [mintTransfers, ih]

theorem Address.eq_zero_of_isZero {a : Address} (h : a.isZero = true) : a = Address.zero := by
  obtain ⟨n, hn⟩ := a
  simp only [Address.isZero, beq_iff_eq] at h
  subst h
  rfl

theorem Hash32.toAddress_ofAddress (a : Address) : (Hash32.ofAddress a).toAddress = a := by
  obtain ⟨n, hn⟩ := a
  have hword : n < wordBound := lt_trans hn (by decide)
  simp only [Hash32.toAddress, Hash32.ofAddress, Hash32.ofNatWrap, Address.ofNatWrap,
    Nat.mod_eq_of_lt hword, Nat.mod_eq_of_lt hn]

/-- The log of a transfer reads back as that transfer while its id fits 64 bits. -/
theorem TransferEvent.ofLog?_toLog (event : TransferEvent) (contract : Address)
    (hid : event.tokenId ≤ u64Max) :
    TransferEvent.ofLog? (event.toLog contract) = some (.ok event) := by
  have hword : event.tokenId < wordBound := lt_of_le_of_lt hid (by decide)
  simp [TransferEvent.ofLog?, TransferEvent.toLog, Hash32.toAddress_ofAddress, Hash32.ofNatWrap,
    Word.ofNatWrap, Nat.mod_eq_of_lt hword, toU64, Word.toU64?, hid, Except.map]


/-- Mint transfers logged by a contract read back from the logs, while their ids fit 64 bits. -/
theorem collectLogs_mintTransfers (contract : Address) (n : Nat) (recipients : List Address)
    (hfits : n + recipients.length ≤ u64Bound) :
    TransferEvent.collectLogs ((mintTransfers n recipients).map (·.toLog contract)) contract =
      .ok (mintTransfers n recipients) := by
  induction recipients generalizing n with
  | nil => rfl
  | cons recipient rest ih =>
    have hrest := ih (n + 1) (by simp at hfits; omega)
    have hid : n ≤ u64Max := by simp [u64Max] at hfits ⊢; omega
    have haddress : ((⟨Address.zero, recipient, n⟩ : TransferEvent).toLog contract).address =
      contract := rfl
    simp only [TransferEvent.collectLogs] at hrest ⊢
    rw [mintTransfers, List.map_cons, List.filter_cons_of_pos (by simpa using haddress),
      List.filterMap_cons_some (TransferEvent.ofLog?_toLog _ _ hid), List.mapM_cons, hrest]
    rfl

/-- Mint transfers from `n` on pass the check against their own recipients, and give the ids
`n, …, n + k - 1`; `previous`, the id before them, is `n - 1` when there is one. -/
theorem verifyMintedFrom_mintTransfers (position n : Nat) (previous : Option Nat)
    (recipients : List Address) (hprevious : ∀ p, previous = some p → p + 1 = n)
    (hfits : n + recipients.length ≤ u64Bound) :
    (verifyMintedFrom position previous ((mintTransfers n recipients).zip recipients)).run =
      .ok (.ok (List.range' n recipients.length)) := by
  induction recipients generalizing position n previous with
  | nil => rfl
  | cons recipient rest ih =>
    have hrest := ih (position + 1) (n + 1) (some n) (fun p hp => by cases hp; rfl)
      (by simp at hfits; omega)
    have hn : n ≤ u64Max := by simp [u64Max] at hfits ⊢; omega
    simp only [mintTransfers, List.zip_cons_cons, verifyMintedFrom, ne_eq, not_true_eq_false,
      if_false]
    cases previous with
    | none =>
      rw [run_bind_of_ok hrest]
      rfl
    | some p =>
      obtain rfl : p + 1 = n := hprevious p rfl
      have hnext : (liftM (m := Except Overflow) (U64.checkedAdd p 1) :
          ExceptT HarnessError (Except Overflow) Nat).run = .ok (.ok (p + 1)) := by
        rw [U64.checkedAdd, if_pos hn]
        rfl
      rw [run_bind_of_ok hnext, if_neg (not_not.2 rfl), run_bind_of_ok hrest]
      rfl

/-! ### The contract's loop -/

/-- `c'` is `c` after minting `recipients` their `uris`, one token each, in order from `c`'s
next id; the ids below it keep their owners and metadata. -/
structure Minted (c c' : Collection) (recipients : List Address) (uris : List String) : Prop where
  next_eq : c'.nextTokenId = c.nextTokenId + recipients.length
  supply_eq : c'.totalSupply = c.totalSupply + recipients.length
  owners_eq : (List.range' c.nextTokenId recipients.length).map c'.owners.get? = recipients.map some
  uris_eq : (List.range' c.nextTokenId recipients.length).map c'.uris.get? = uris.map some
  owners_below : ∀ id < c.nextTokenId, c'.owners.get? id = c.owners.get? id
  uris_below : ∀ id < c.nextTokenId, c'.uris.get? id = c.uris.get? id

theorem Minted.nil (c : Collection) : Minted c c [] [] :=
  ⟨rfl, rfl, rfl, rfl, fun _ _ => rfl, fun _ _ => rfl⟩

/-- Minting the first recipient, then the rest from the id after it. -/
theorem Minted.cons {c c₁ c' : Collection} {recipient : Address} {uri : String}
    {event : TransferEvent} {recipients : List Address} {uris : List String}
    (hmint : c.mint recipient uri = .ok (c₁, event)) (hrest : Minted c₁ c' recipients uris) :
    Minted c c' (recipient :: recipients) (uri :: uris) := by
  obtain ⟨-, rfl⟩ := Collection.mint_eq_ok hmint
  obtain ⟨hnext, hsupply, howners, huris, hbelow, hbelow'⟩ := hrest
  dsimp only at hnext hsupply howners huris hbelow hbelow'
  refine ⟨?_, ?_, ?_, ?_, fun id hid => ?_, fun id hid => ?_⟩
  · simp only [hnext, List.length_cons]
    omega
  · simp only [hsupply, List.length_cons]
    omega
  · rw [List.length_cons, List.range'_succ, List.map_cons, howners,
      hbelow _ (Nat.lt_succ_self _), Table.get?_insert, if_pos rfl, List.map_cons]
  · rw [List.length_cons, List.range'_succ, List.map_cons, huris,
      hbelow' _ (Nat.lt_succ_self _), Table.get?_insert, if_pos rfl, List.map_cons]
  · rw [hbelow _ (Nat.lt_succ_of_lt hid), Table.get?_insert, if_neg (Nat.ne_of_gt hid)]
  · rw [hbelow' _ (Nat.lt_succ_of_lt hid), Table.get?_insert, if_neg (Nat.ne_of_gt hid)]

theorem run_bind_of_error {ε α β : Type} {x : ExceptT ε (Except Overflow) α}
    {f : α → ExceptT ε (Except Overflow) β} {e : ε} (hx : x.run = .ok (.error e)) :
    (x >>= f).run = .ok (.error e) := by
  simp only [ExceptT.run_bind, hx]
  rfl

/-- The pairs a batch mint hands to the contract's loop. -/
abbrev mintItems (recipients : List Address) (uris : List String) : List (Token × Token) :=
  (recipients.map .address).zip (uris.map .string)

theorem Collection.mint_zero (c : Collection) (uri : String) :
    c.mint Address.zero uri = .error "ERC721InvalidReceiver(0x0)" :=
  rfl

theorem Collection.mint_of_ne_zero (c : Collection) {recipient : Address} (uri : String)
    (hzero : recipient ≠ Address.zero) :
    ∃ c₁, c.mint recipient uri =
      .ok (c₁, { source := Address.zero, target := recipient, tokenId := c.nextTokenId }) :=
  ⟨_, by rw [Collection.mint, if_neg fun h => hzero (Address.eq_zero_of_isZero h)]⟩

/-- The contract's loop over a batch mints every recipient in order, or, at a zero recipient,
reverts the whole batch. -/
theorem mintEach_run (contract : Address) (c : Collection) (recipients : List Address)
    (uris : List String) (hlen : recipients.length = uris.length) :
    ((∀ r ∈ recipients, r ≠ Address.zero) →
      ∃ c', (mintEach contract c (mintItems recipients uris)).run =
          .ok (.ok (c', (mintTransfers c.nextTokenId recipients).map (·.toLog contract))) ∧
        Minted c c' recipients uris) ∧
    ((∃ r ∈ recipients, r = Address.zero) →
      (mintEach contract c (mintItems recipients uris)).run =
        .ok (.error "ERC721InvalidReceiver(0x0)")) := by
  induction recipients generalizing c uris with
  | nil =>
    obtain rfl : uris = [] := List.eq_nil_of_length_eq_zero hlen.symm
    refine ⟨fun _ => ⟨c, rfl, .nil c⟩, ?_⟩
    rintro ⟨r, hr, -⟩
    exact absurd hr List.not_mem_nil
  | cons recipient recipients ih =>
    obtain ⟨uri, uris, rfl⟩ := List.exists_cons_of_length_eq_add_one hlen.symm
    have htarget : (converting (Token.address recipient).asAddress).run = .ok (.ok recipient) :=
      rfl
    have htext : (converting (Token.string uri).asString).run = .ok (.ok uri) := rfl
    simp only [mintItems, List.map_cons, List.zip_cons_cons, mintEach]
    rw [run_bind_of_ok htarget, run_bind_of_ok htext]
    by_cases hzero : recipient = Address.zero
    · refine ⟨fun hall => absurd hzero (hall _ List.mem_cons_self), fun _ => ?_⟩
      rw [hzero, run_bind_of_error (by rw [orRevert_run, Collection.mint_zero])]
    obtain ⟨c₁, hmint⟩ := c.mint_of_ne_zero uri hzero
    have hnext : c₁.nextTokenId = c.nextTokenId + 1 := by
      obtain ⟨-, rfl⟩ := Collection.mint_eq_ok hmint
      rfl
    rw [run_bind_of_ok (by rw [orRevert_run, hmint])]
    obtain ⟨hall, hsome⟩ := ih c₁ uris (by simpa using hlen)
    constructor
    · intro hnonzero
      obtain ⟨c', hrest, hminted⟩ := hall fun r hr => hnonzero r (List.mem_cons_of_mem _ hr)
      rw [hnext] at hrest
      refine ⟨c', ?_, hminted.cons hmint⟩
      rw [run_bind_of_ok hrest]
      rfl
    · rintro ⟨r, hr, hrzero⟩
      have hrest : ∃ r ∈ recipients, r = Address.zero := by
        rcases List.mem_cons.1 hr with rfl | hr
        · exact absurd hrzero hzero
        · exact ⟨r, hr, hrzero⟩
      rw [run_bind_of_error (hsome hrest)]

/-! ### The dispatch -/

/-- A call that mints: a single mint names one recipient and one URI. -/
inductive MintCall : Call → List Address → List String → Prop
  | single (recipient : Address) (uri : String) :
      MintCall (safeMint recipient uri) [recipient] [uri]
  | batch (recipients : List Address) (uris : List String) :
      MintCall (batchMint recipients uris) recipients uris

/-- Calldata built from a call splits into the call's selector and its encoded arguments. -/
theorem splitCalldata_run (call : Call) :
    (splitCalldata call.calldata).run = .ok (.ok (call.selectorBytes, call.calldata.drop 4)) := by
  have hselector : call.selectorBytes.length = 4 := by simp [Call.selectorBytes, selector]
  have hlong : ¬call.calldata.length < 4 := by simp [Call.calldata, hselector]
  rw [splitCalldata, if_neg hlong, Call.calldata, List.take_left' hselector]
  rfl

theorem decodeArgs_run {types : List ParamType} {data : Bytes} {tokens : List Token}
    (h : (decode types data).run = .ok (.ok tokens)) :
    (decodeArgs types data).run = .ok (.ok tokens) := by
  simp only [decodeArgs, ExceptT.run_mk, h]
  rfl

theorem onlyAdmin_run (c : Collection) (caller : Address) :
    (caller = c.admin → (orRevert (c.onlyAdmin caller)).run = .ok (.ok ())) ∧
    (caller ≠ c.admin →
      ∃ reason, (orRevert (c.onlyAdmin caller)).run = .ok (.error reason)) := by
  refine ⟨fun hadmin => ?_,
    fun hadmin => ⟨"OwnableUnauthorizedAccount(" ++ caller.toHex ++ ")", ?_⟩⟩
  · simp [Collection.onlyAdmin, hadmin]
  · simp [Collection.onlyAdmin, hadmin]

section
variable (stale : Bool) (contract caller : Address) (c : Collection)

/-- A single mint, once its arguments decode, checks the admin and mints. -/
theorem execute_safeMint_run {recipient : Address} {uri : String}
    (hfits : (safeMint recipient uri).calldata.length ≤ u64Max) :
    (execute stale contract caller (safeMint recipient uri).calldata c).run =
      (do
        orRevert (c.onlyAdmin caller)
        let minted ← orRevert (c.mint recipient uri)
        pure (minted.1, [minted.2.toLog contract])).run := by
  have hsel : (safeMint recipient uri).selectorBytes = selector safeMintSignature := rfl
  have hargs : (decodeArgs [.address, .string] ((safeMint recipient uri).calldata.drop 4)).run =
      .ok (.ok [.address recipient, .string uri]) :=
    decodeArgs_run (decode_calldata_args (.cons (.address _) (.cons (.string _) .nil)) hfits)
  rw [execute, run_bind_of_ok (splitCalldata_run _)]
  dsimp only
  rw [if_pos hsel, run_bind_of_ok hargs]
  dsimp only
  rw [run_bind_of_ok (rfl : (converting (Token.string uri).asString).run = .ok (.ok uri)),
    run_bind_of_ok
      (rfl : (converting (Token.address recipient).asAddress).run = .ok (.ok recipient))]

/-- A batch mint, once its arguments decode, checks the admin, the lengths and that the batch is
not empty, and runs the loop over its pairs. -/
theorem execute_batchMint_run {recipients : List Address} {uris : List String}
    (hfits : (batchMint recipients uris).calldata.length ≤ u64Max) :
    (execute stale contract caller (batchMint recipients uris).calldata c).run =
      (do
        orRevert (c.onlyAdmin caller)
        if (recipients.map Token.address).length ≠ (uris.map Token.string).length then
          revert "Arrays length mismatch"
        else if (recipients.map Token.address).isEmpty then revert "Empty batch"
        else mintEach contract c (mintItems recipients uris)).run := by
  have hsel : (batchMint recipients uris).selectorBytes = selector batchMintSignature := rfl
  have hsingle : (batchMint recipients uris).selectorBytes ≠ selector safeMintSignature := by
    rw [hsel, selector_batchMint, selector_safeMint]
    decide
  have htypes : List.Forall₂ Token.HasType (batchMint recipients uris).args
      [.array .address, .array .string] := by
    refine .cons (.array fun t ht => ?_) (.cons (.array fun t ht => ?_) .nil)
    · obtain ⟨a, -, rfl⟩ := List.mem_map.1 ht
      exact .address a
    · obtain ⟨s, -, rfl⟩ := List.mem_map.1 ht
      exact .string s
  have hargs := decodeArgs_run (decode_calldata_args htypes hfits)
  rw [execute, run_bind_of_ok (splitCalldata_run _)]
  dsimp only
  rw [if_neg hsingle, if_pos hsel, run_bind_of_ok hargs]
  dsimp only [batchMint]
  rw [run_bind_of_ok (rfl : (converting (Token.array (uris.map Token.string)).asArray).run =
      .ok (.ok (uris.map Token.string))),
    run_bind_of_ok (rfl : (converting (Token.array (recipients.map Token.address)).asArray).run =
      .ok (.ok (recipients.map Token.address)))]

/-- What a mint call does to a collection: from the admin, with no zero recipient and as many
URIs as recipients, at least one, it mints them in order and logs their transfers; otherwise it
reverts. -/
theorem execute_mintCall {call : Call} {recipients : List Address} {uris : List String}
    (hcall : MintCall call recipients uris) (hfits : call.calldata.length ≤ u64Max) :
    (caller = c.admin ∧ (∀ r ∈ recipients, r ≠ Address.zero) ∧
        recipients.length = uris.length ∧ recipients ≠ [] →
      ∃ c', (execute stale contract caller call.calldata c).run =
          .ok (.ok (c', (mintTransfers c.nextTokenId recipients).map (·.toLog contract))) ∧
        Minted c c' recipients uris) ∧
    (¬(caller = c.admin ∧ (∀ r ∈ recipients, r ≠ Address.zero) ∧
        recipients.length = uris.length ∧ recipients ≠ []) →
      ∃ reason, (execute stale contract caller call.calldata c).run = .ok (.error reason)) := by
  obtain ⟨hyes, hno⟩ := onlyAdmin_run c caller
  by_cases hadmin : caller = c.admin
  swap
  · obtain ⟨reason, hreason⟩ := hno hadmin
    refine ⟨fun haccepted => absurd haccepted.1 hadmin, fun _ => ⟨reason, ?_⟩⟩
    cases hcall with
    | single => rw [execute_safeMint_run stale contract caller c hfits, run_bind_of_error hreason]
    | batch => rw [execute_batchMint_run stale contract caller c hfits, run_bind_of_error hreason]
  cases hcall with
  | single recipient uri =>
    rw [execute_safeMint_run stale contract caller c hfits, run_bind_of_ok (hyes hadmin)]
    by_cases hzero : recipient = Address.zero
    · refine ⟨fun haccepted => absurd hzero (haccepted.2.1 _ List.mem_cons_self),
        fun _ => ⟨"ERC721InvalidReceiver(0x0)", ?_⟩⟩
      rw [hzero, run_bind_of_error (by rw [orRevert_run, Collection.mint_zero])]
    · obtain ⟨c₁, hmint⟩ := c.mint_of_ne_zero uri hzero
      refine ⟨fun _ => ⟨c₁, ?_, (Minted.nil c₁).cons hmint⟩, fun hnot => ?_⟩
      · rw [run_bind_of_ok (by rw [orRevert_run, hmint])]
        rfl
      · exact absurd ⟨hadmin, by simpa using hzero, rfl, List.cons_ne_nil _ _⟩ hnot
  | batch recipients uris =>
    rw [execute_batchMint_run stale contract caller c hfits, run_bind_of_ok (hyes hadmin)]
    by_cases hlen : recipients.length = uris.length
    swap
    · refine ⟨fun haccepted => absurd haccepted.2.2.1 hlen,
        fun _ => ⟨"Arrays length mismatch", ?_⟩⟩
      rw [if_pos (by simpa using hlen), revert_run]
    by_cases hempty : recipients = []
    · refine ⟨fun haccepted => absurd hempty haccepted.2.2.2, fun _ => ⟨"Empty batch", ?_⟩⟩
      rw [if_neg (by simpa using hlen), if_pos (by simp [hempty]), revert_run]
    rw [if_neg (by simpa using hlen), if_neg (by simpa using hempty)]
    obtain ⟨hall, hsome⟩ := mintEach_run contract c recipients uris hlen
    by_cases hnonzero : ∀ r ∈ recipients, r ≠ Address.zero
    · exact ⟨fun _ => hall hnonzero,
        fun hnot => absurd ⟨hadmin, hnonzero, hlen, hempty⟩ hnot⟩
    · have hzero : ∃ r ∈ recipients, r = Address.zero := by simpa using hnonzero
      exact ⟨fun haccepted => absurd haccepted.2.1 hnonzero, fun _ => ⟨_, hsome hzero⟩⟩

end

/-! ### The receipt -/

theorem verifyMinted_mintTransfers (n : Nat) (recipients : List Address)
    (hfits : n + recipients.length ≤ u64Bound) :
    (verifyMinted (mintTransfers n recipients) recipients).run =
      .ok (.ok (List.range' n recipients.length)) := by
  rw [verifyMinted, if_neg (by simp)]
  exact verifyMintedFrom_mintTransfers 0 n none recipients (fun _ h => by cases h) hfits

/-- A mint sent by a signer to a contract, with no fault pending, is included in a block. Its
receipt succeeds exactly when the caller is the admin, no recipient is zero and there are as
many URIs as recipients, at least one; a failed mint leaves every contract as it was. A
successful one gives the recipients, in order, the ids from the contract's next id `n` on with
their URIs, moves the next id and the supply up by their number `k`, and, while the ids fit 64
bits, its receipt reports exactly their transfers from zero, which pass the harness's check
with the ids `n, …, n + k - 1`. -/
theorem mint_receipt_decides {chain : Chain} {source target : Address} {collection : Collection}
    {call : Call} {recipients : List Address} {uris : List String}
    (hcall : MintCall call recipients uris) (hsigner : chain.signers.contains source = true)
    (hdrop : chain.dropNext = false) (hrevert : chain.revertNext = false)
    (hcontract : chain.contracts.get? target = some collection)
    (hfits : call.calldata.length ≤ u64Max) :
    ∃ receipt chain', Ends (send source target call) chain (.ok (.included receipt)) chain' ∧
      (receipt.status = true ↔ source = collection.admin ∧
        (∀ r ∈ recipients, r ≠ Address.zero) ∧ recipients.length = uris.length ∧
        recipients ≠ []) ∧
      (receipt.status = false → chain'.contracts = chain.contracts) ∧
      (receipt.status = true →
        ∃ collection', chain'.contracts.get? target = some collection' ∧
        (List.range' collection.nextTokenId recipients.length).map collection'.owners.get? =
          recipients.map some ∧
        (List.range' collection.nextTokenId recipients.length).map collection'.uris.get? =
          uris.map some ∧
        collection'.nextTokenId = collection.nextTokenId + recipients.length ∧
        collection'.totalSupply = collection.totalSupply + recipients.length ∧
        (collection.nextTokenId + recipients.length ≤ u64Bound →
          TransferEvent.collect receipt target =
              .ok (mintTransfers collection.nextTokenId recipients) ∧
            (verifyMinted (mintTransfers collection.nextTokenId recipients) recipients).run =
              .ok (.ok (List.range' collection.nextTokenId recipients.length)))) := by
  obtain ⟨haccept, hreject⟩ :=
    execute_mintCall chain.staleOwnerReads target source collection hcall hfits
  by_cases hok : source = collection.admin ∧ (∀ r ∈ recipients, r ≠ Address.zero) ∧
    recipients.length = uris.length ∧ recipients ≠ []
  · obtain ⟨c', hexecute, hminted⟩ := haccept hok
    refine ⟨_, _, (SendEnd.executed hsigner hdrop hrevert hcontract hexecute).ends,
      iff_of_true rfl hok, (fun h => by cases h), fun _ => ⟨c', ?_, hminted.owners_eq,
        hminted.uris_eq, hminted.next_eq, hminted.supply_eq, fun hids => ⟨?_, ?_⟩⟩⟩
    · simp [Chain.started, Chain.numbered]
    · exact collectLogs_mintTransfers target _ _ hids
    · exact verifyMinted_mintTransfers _ _ hids
  · obtain ⟨reason, hexecute⟩ := hreject hok
    refine ⟨_, _, (SendEnd.reverted hsigner hdrop hrevert hcontract hexecute).ends,
      iff_of_false Bool.false_ne_true hok, fun _ => ?_, fun h => by cases h⟩
    simp [Chain.started, Chain.numbered]

/-- The first signer, admin of a fresh collection at address `7`, mints one token to address `2`:
the receipt succeeds, reports the transfer of token `1` from zero, and passes the check. -/
theorem admin_single_mint_succeeds :
    ∃ receipt chain',
      Ends (send (signerAddress 0) (Address.ofNatWrap 7)
          (safeMint (Address.ofNatWrap 2) "ipfs://token"))
        { Chain.create {} with
          contracts := [(Address.ofNatWrap 7, Collection.create (signerAddress 0))] }
        (.ok (.included receipt)) chain' ∧
      receipt.status = true ∧
      TransferEvent.collect receipt (Address.ofNatWrap 7) =
        .ok [{ source := Address.zero, target := Address.ofNatWrap 2, tokenId := 1 }] ∧
      (verifyMinted [{ source := Address.zero, target := Address.ofNatWrap 2, tokenId := 1 }]
        [Address.ofNatWrap 2]).run = .ok (.ok [1]) := by
  have hsigner : ({ Chain.create {} with
      contracts := [(Address.ofNatWrap 7, Collection.create (signerAddress 0))] } :
        Chain).signers.contains (signerAddress 0) = true :=
    Chain.create_signers_contains (show 0 < ({} : Config).signerCount by decide)
  have hfits : (safeMint (Address.ofNatWrap 2) "ipfs://token").calldata.length ≤ u64Max := by
    simp only [Call.calldata, Call.selectorBytes, selector, List.length_append, List.length_take,
      Keccak.length_hash]
    decide +kernel
  have hcontract : ({ Chain.create {} with
      contracts := [(Address.ofNatWrap 7, Collection.create (signerAddress 0))] } :
        Chain).contracts.get? (Address.ofNatWrap 7) =
      some (Collection.create (signerAddress 0)) := by
    simp [Table.get?]
  obtain ⟨receipt, chain', hends, hstatus, -, heffects⟩ :=
    mint_receipt_decides (.single (Address.ofNatWrap 2) "ipfs://token") hsigner rfl rfl hcontract
      hfits
  have haccepted : receipt.status = true := by
    refine hstatus.2 ⟨rfl, fun r hr => ?_, rfl, List.cons_ne_nil _ _⟩
    rw [List.mem_singleton.1 hr]
    decide
  obtain ⟨_, _, _, _, _, _, hids⟩ := heffects haccepted
  obtain ⟨hcollect, hverify⟩ := hids (by decide)
  exact ⟨receipt, chain', hends, haccepted, hcollect, hverify⟩

end NftProbe.Sim
