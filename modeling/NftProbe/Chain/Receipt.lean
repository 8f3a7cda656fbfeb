import NftProbe.Chain.Block

/-!
# Receipts and transaction outcomes

A `Receipt` records an included transaction: its hash, block, gas used, whether it succeeded,
the address it created, and the events (`LogEntry`) it emitted. A reverted transaction keeps no
events. A `TxOutcome` is what a client returns for a submitted transaction: confirmed with a
receipt once it was included, pending otherwise. It succeeded when it is confirmed and its
receipt reports success. A `Deployment` adds the created address, which counts only when the
creation succeeded and the address is not zero.
-/

set_option autoImplicit false

namespace NftProbe

/-- One event emitted by a transaction. -/
structure LogEntry where
  address : Address
  topics : List Hash32
  data : Bytes
deriving DecidableEq, Repr

/-- The JSON form: `address`, `topics`, and `data` in hex without prefix. -/
def LogEntry.toJson (entry : LogEntry) : Json :=
  .object [
    ("address", .string entry.address.toHex),
    ("topics", .array (entry.topics.map fun topic => .string topic.toHex)),
    ("data", .string (Hex.encode entry.data))]

/-- The record of an included transaction. -/
structure Receipt where
  txHash : Hash32
  blockNumber : Nat
  gasUsed : Nat
  status : Bool
  contractAddress : Option Address
  logs : List LogEntry
deriving DecidableEq, Repr

/-- The JSON form of a receipt. -/
def Receipt.toJson (receipt : Receipt) : Json :=
  .object [
    ("tx_hash", .string receipt.txHash.toHex),
    ("block_number", .nat receipt.blockNumber),
    ("gas_used", .nat receipt.gasUsed),
    ("status", .bool receipt.status),
    ("contract_address", .optional (fun a => .string a.toHex) receipt.contractAddress),
    ("logs", .array (receipt.logs.map LogEntry.toJson))]

/-- A submitted transaction: confirmed with its receipt, or still pending. -/
structure TxOutcome where
  txHash : Hash32
  receipt : Option Receipt
  confirmed : Bool
deriving DecidableEq, Repr

namespace TxOutcome

/-- The outcome of an included transaction. -/
def included (receipt : Receipt) : TxOutcome :=
  { txHash := receipt.txHash, receipt := some receipt, confirmed := true }

/-- The outcome of a transaction that was not included. -/
def pending (txHash : Hash32) : TxOutcome :=
  { txHash, receipt := none, confirmed := false }

/-- Whether the transaction was included and succeeded. -/
def succeeded (outcome : TxOutcome) : Bool :=
  outcome.confirmed && (outcome.receipt.map (·.status)).getD false

/-- The gas used, once included. -/
def gasUsed (outcome : TxOutcome) : Option Nat :=
  outcome.receipt.map (·.gasUsed)

/-- The JSON form: `tx_hash`, `receipt`, `confirmed`. -/
def toJson (outcome : TxOutcome) : Json :=
  .object [
    ("tx_hash", .string outcome.txHash.toHex),
    ("receipt", .optional Receipt.toJson outcome.receipt),
    ("confirmed", .bool outcome.confirmed)]

end TxOutcome

/-- A contract creation: the address, once known, and the outcome of its transaction. -/
structure Deployment where
  address : Option Address
  outcome : TxOutcome
deriving DecidableEq, Repr

/-- The created contract: the address of a successful creation, when it is not zero. -/
def Deployment.createdAddress (deployment : Deployment) : Option Address :=
  if deployment.outcome.succeeded then deployment.address.filter (!·.isZero) else none

end NftProbe
