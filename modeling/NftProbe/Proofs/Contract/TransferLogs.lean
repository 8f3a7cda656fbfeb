import NftProbe.Proofs.Run.MintOutcomes
import NftProbe.Proofs.Sim.Minting

/-!
# Transfers read from logs

A log is a transfer log when it has four topics and the first of them is the transfer event's
topic, the hash of `Transfer(address,address,uint256)` (`IsTransferLog`). `TransferEvent.ofLog?`
reads exactly the transfer logs (`ofLog?_eq_none_iff`). It refuses one whose fourth topic, read as
a big-endian number, is 2^64 or more (`ofLog?_eq_some_error_iff`), and the log of a transfer reads
back as that transfer (`TransferEvent.ofLog?_toLog`).

The transfers a receipt reports for a contract come from the transfer logs that contract emitted,
in log order (`transferLogs`): the transfer of each of them when all decode
(`collectLogs_eq_ok_iff`), and otherwise the error of the first that does not
(`collectLogs_eq_error_iff_first`). Logs of other contracts and logs of other events are passed
over, whatever they hold. `transfer_logs_read_back` gathers these facts.
-/

set_option autoImplicit false

namespace NftProbe.Contract

open Abi

/-- A log of the transfer event: four topics, the first of them the event's topic. -/
def IsTransferLog (log : LogEntry) : Prop :=
  log.topics.length = 4 ∧ log.topics[0]? = some transferTopic

instance (log : LogEntry) : Decidable (IsTransferLog log) :=
  inferInstanceAs (Decidable (_ ∧ _))

/-- The transfer logs a contract emitted, in log order. -/
def transferLogs (logs : List LogEntry) (contract : Address) : List LogEntry :=
  logs.filter fun log => decide (log.address = contract ∧ IsTransferLog log)

@[simp] theorem transferLogs_nil (contract : Address) : transferLogs [] contract = [] := rfl

theorem transferLogs_cons_of {log : LogEntry} {logs : List LogEntry} {contract : Address}
    (h : log.address = contract ∧ IsTransferLog log) :
    transferLogs (log :: logs) contract = log :: transferLogs logs contract := by
  simp [transferLogs, h]

theorem transferLogs_cons_of_not {log : LogEntry} {logs : List LogEntry} {contract : Address}
    (h : ¬(log.address = contract ∧ IsTransferLog log)) :
    transferLogs (log :: logs) contract = transferLogs logs contract := by
  simp only [transferLogs, List.filter_cons, decide_eq_true_eq, h, if_false]

/-- The topics of a transfer log: the event's topic, two addresses and the token id. -/
theorem isTransferLog_iff {log : LogEntry} :
    IsTransferLog log ↔ ∃ source target id, log.topics = [transferTopic, source, target, id] := by
  unfold IsTransferLog
  constructor
  · rintro ⟨hlength, hfirst⟩
    rcases htopics : log.topics with
      _ | ⟨topic, _ | ⟨source, _ | ⟨target, _ | ⟨id, _ | ⟨extra, rest⟩⟩⟩⟩⟩
    all_goals simp [htopics] at hlength hfirst
    exact ⟨source, target, id, by rw [hfirst]⟩
  · rintro ⟨source, target, id, htopics⟩
    simp [htopics]

/-- A log is read as a transfer, well formed or not, exactly when it is a transfer log. -/
theorem ofLog?_eq_none_iff {log : LogEntry} :
    TransferEvent.ofLog? log = none ↔ ¬IsTransferLog log := by
  rw [isTransferLog_iff]
  unfold TransferEvent.ofLog?
  split
  · rename_i topic source target id htopics
    by_cases htopic : topic = transferTopic
    · subst htopic
      simp [htopics]
    · simp [htopics, htopic]
  · rename_i hshape
    simp only [true_iff]
    rintro ⟨source, target, id, htopics⟩
    exact hshape _ _ _ _ htopics

/-- A topic read as a big-endian number is the number it holds. -/
theorem Hash32.toNat_toBytes (h : Hash32) : Bytes.toNat h.toBytes = h.toNat := by
  have hbound : (256 : Nat) ^ 32 = wordBound := rfl
  rw [Hash32.toBytes, Bytes.toNat_ofNat, hbound, Nat.mod_eq_of_lt h.isLt]

/-- A transfer log is refused exactly when its token id, the fourth topic read as a big-endian
number, is 2^64 or more, and then as an overflow of 64 bits. -/
theorem ofLog?_eq_some_error_iff {log : LogEntry} {e : AbiError} :
    TransferEvent.ofLog? log = some (.error e) ↔
      IsTransferLog log ∧ (∃ id, log.topics[3]? = some id ∧ u64Bound ≤ Bytes.toNat id.toBytes) ∧
        e = .overflow "u64" := by
  have hbound : u64Max + 1 = u64Bound := rfl
  rw [TransferEvent.ofLog?_eq_some_error, isTransferLog_iff]
  constructor
  · rintro ⟨⟨source, target, id, htopics, hbig⟩, rfl⟩
    refine ⟨⟨source, target, id, htopics⟩, ⟨id, by simp [htopics], ?_⟩, rfl⟩
    rw [Hash32.toNat_toBytes]
    omega
  · rintro ⟨⟨source, target, id, htopics⟩, ⟨id', hid', hbig⟩, rfl⟩
    simp only [htopics, List.getElem?_cons_succ, List.getElem?_cons_zero,
      Option.some.injEq] at hid'
    subst hid'
    rw [Hash32.toNat_toBytes] at hbig
    exact ⟨⟨source, target, id, htopics, by omega⟩, rfl⟩

namespace TransferEvent

/-- A log that is not a transfer log of the contract is passed over. -/
theorem collectLogs_cons_of_not {log : LogEntry} {logs : List LogEntry} {contract : Address}
    (h : ¬(log.address = contract ∧ IsTransferLog log)) :
    collectLogs (log :: logs) contract = collectLogs logs contract := by
  unfold collectLogs
  by_cases haddress : log.address = contract
  · have hnone : ofLog? log = none := ofLog?_eq_none_iff.2 fun htransfer => h ⟨haddress, htransfer⟩
    simp [haddress, hnone]
  · simp [haddress]

/-- A transfer log of the contract is read first, then the logs after it. -/
theorem collectLogs_cons_of_ofLog? {log : LogEntry} {logs : List LogEntry} {contract : Address}
    {r : Except AbiError TransferEvent} (haddress : log.address = contract)
    (h : ofLog? log = some r) :
    collectLogs (log :: logs) contract =
      r.bind fun event => (event :: ·) <$> collectLogs logs contract := by
  unfold collectLogs
  cases r <;> simp [haddress, h, List.mapM_cons] <;> rfl

/-- A transfer log is read as a transfer, well formed or not. -/
theorem exists_ofLog?_of_isTransferLog {log : LogEntry} (h : IsTransferLog log) :
    ∃ r, ofLog? log = some r :=
  Option.ne_none_iff_exists'.1 fun hnone => ofLog?_eq_none_iff.1 hnone h

/-- The contract's transfers are read when each of its transfer logs decodes, one transfer per
log in log order. -/
theorem collectLogs_eq_ok_iff {logs : List LogEntry} {contract : Address}
    {events : List TransferEvent} :
    collectLogs logs contract = .ok events ↔
      List.Forall₂ (fun log event => ofLog? log = some (.ok event))
        (transferLogs logs contract) events := by
  induction logs generalizing events with
  | nil =>
    simp only [collectLogs, List.filter_nil, List.filterMap_nil, List.mapM_nil, transferLogs_nil,
      List.forall₂_nil_left_iff]
    exact ⟨fun h => (Except.ok.inj h).symm, fun h => h ▸ rfl⟩
  | cons log logs ih =>
    by_cases hlog : log.address = contract ∧ IsTransferLog log
    · obtain ⟨r, hr⟩ := exists_ofLog?_of_isTransferLog hlog.2
      rw [collectLogs_cons_of_ofLog? hlog.1 hr, transferLogs_cons_of hlog]
      cases r with
      | error e =>
        constructor
        · intro h
          cases h
        · intro h
          obtain ⟨event, rest, hevent, -, -⟩ := List.forall₂_cons_left_iff.1 h
          rw [hr] at hevent
          cases hevent
      | ok event =>
        simp only [Except.bind, List.forall₂_cons_left_iff, hr, Option.some.injEq,
          Except.ok.injEq, ← ih]
        cases collectLogs logs contract with
        | error e => simp [Functor.map, Except.map]
        | ok rest => simp [Functor.map, Except.map, eq_comm]
    · rw [collectLogs_cons_of_not hlog, transferLogs_cons_of_not hlog, ih]

/-- Where a first element of a list satisfies `P`, with every one before it satisfying `R`. -/
private theorem exists_first_cons {α : Type} {R P : α → Prop} {x : α} {xs : List α} :
    (∃ pre y post, x :: xs = pre ++ y :: post ∧ (∀ z ∈ pre, R z) ∧ P y) ↔
      P x ∨ R x ∧ ∃ pre y post, xs = pre ++ y :: post ∧ (∀ z ∈ pre, R z) ∧ P y := by
  constructor
  · rintro ⟨pre, y, post, hsplit, hpre, hy⟩
    cases pre with
    | nil =>
      obtain ⟨rfl, rfl⟩ := List.cons.inj hsplit
      exact .inl hy
    | cons z pre =>
      obtain ⟨rfl, rfl⟩ := List.cons.inj hsplit
      exact .inr ⟨hpre _ List.mem_cons_self, pre, y, post, rfl,
        fun w hw => hpre w (List.mem_cons_of_mem _ hw), hy⟩
  · rintro (hx | ⟨hx, pre, y, post, rfl, hpre, hy⟩)
    · exact ⟨[], x, xs, rfl, by simp, hx⟩
    · refine ⟨x :: pre, y, post, rfl, ?_, hy⟩
      intro z hz
      rcases List.mem_cons.1 hz with rfl | hz
      · exact hx
      · exact hpre z hz

/-- Reading the contract's transfers fails with the error of its first transfer log that does
not decode, every transfer log before it decoding. -/
theorem collectLogs_eq_error_iff_first {logs : List LogEntry} {contract : Address}
    {e : AbiError} :
    collectLogs logs contract = .error e ↔
      ∃ pre log post, transferLogs logs contract = pre ++ log :: post ∧
        (∀ l ∈ pre, ∃ event, ofLog? l = some (.ok event)) ∧ ofLog? log = some (.error e) := by
  induction logs with
  | nil => simp [collectLogs]
  | cons log logs ih =>
    by_cases hlog : log.address = contract ∧ IsTransferLog log
    · obtain ⟨r, hr⟩ := exists_ofLog?_of_isTransferLog hlog.2
      rw [collectLogs_cons_of_ofLog? hlog.1 hr, transferLogs_cons_of hlog, exists_first_cons, hr]
      cases r with
      | error e' => simp [Except.bind, eq_comm]
      | ok event =>
        simp only [Except.bind, Option.some.injEq, reduceCtorEq, false_or, Except.ok.injEq,
          exists_eq', true_and, ← ih]
        cases collectLogs logs contract <;> simp [Functor.map, Except.map]
    · rw [collectLogs_cons_of_not hlog, transferLogs_cons_of_not hlog, ih]

end TransferEvent

/-- Transfer logs and what is read from them. The log of a transfer whose token id fits 64 bits
reads back as that transfer. A log is read at all exactly when it is a transfer log, and is
refused exactly when its fourth topic, as a big-endian number, is 2^64 or more, as an overflow of
64 bits. The transfers of a receipt for a contract are read from that contract's transfer logs,
in log order: one per log when all decode, else the error of the first that does not. -/
theorem transfer_logs_read_back :
    (∀ (event : TransferEvent) (contract : Address), event.tokenId ≤ u64Max →
      TransferEvent.ofLog? (event.toLog contract) = some (.ok event)) ∧
    (∀ log : LogEntry, TransferEvent.ofLog? log = none ↔ ¬IsTransferLog log) ∧
    (∀ (log : LogEntry) (e : AbiError), TransferEvent.ofLog? log = some (.error e) ↔
      IsTransferLog log ∧ (∃ id, log.topics[3]? = some id ∧ u64Bound ≤ Bytes.toNat id.toBytes) ∧
        e = .overflow "u64") ∧
    (∀ (receipt : Receipt) (contract : Address) (events : List TransferEvent),
      TransferEvent.collect receipt contract = .ok events ↔
        List.Forall₂ (fun log event => TransferEvent.ofLog? log = some (.ok event))
          (transferLogs receipt.logs contract) events) ∧
    (∀ (receipt : Receipt) (contract : Address) (e : AbiError),
      TransferEvent.collect receipt contract = .error e ↔
        ∃ pre log post, transferLogs receipt.logs contract = pre ++ log :: post ∧
          (∀ l ∈ pre, ∃ event, TransferEvent.ofLog? l = some (.ok event)) ∧
          TransferEvent.ofLog? log = some (.error e)) :=
  ⟨fun event contract hid => Sim.TransferEvent.ofLog?_toLog event contract hid,
    fun _ => ofLog?_eq_none_iff, fun _ _ => ofLog?_eq_some_error_iff,
    fun _ _ _ => TransferEvent.collectLogs_eq_ok_iff,
    fun _ _ _ => TransferEvent.collectLogs_eq_error_iff_first⟩

/-- The log of the mint of token 5 to the address 1, emitted by the zero address, reads back. -/
theorem mint_log_reads_back :
    5 ≤ u64Max ∧
      TransferEvent.ofLog? (TransferEvent.toLog ⟨Address.zero, Address.ofNatWrap 1, 5⟩
        Address.zero) = some (.ok ⟨Address.zero, Address.ofNatWrap 1, 5⟩) :=
  ⟨by decide, transfer_logs_read_back.1 _ _ (by decide)⟩

end NftProbe.Contract
