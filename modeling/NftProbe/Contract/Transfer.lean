import NftProbe.Contract.Calls
import NftProbe.Chain.Receipt

/-!
# Transfer events

A `Transfer(from, to, tokenId)` event, with all three fields indexed: its log has four topics,
the event topic, the two addresses in the low bytes of a word, and the token id. A mint is a
transfer from the zero address. `TransferEvent.collect` reads the transfers a receipt reports
for one contract, in log order; a token id above 64 bits is an error.
-/

set_option autoImplicit false

namespace NftProbe.Contract

open Abi

/-- The topic of the transfer event. -/
def transferTopic : Hash32 :=
  eventTopic transferEventSignature

/-- A token moving from one owner to another. -/
structure TransferEvent where
  source : Address
  target : Address
  tokenId : Nat
deriving DecidableEq, Repr

namespace TransferEvent

/-- Whether the transfer created the token. -/
def isMint (event : TransferEvent) : Bool :=
  event.source.isZero

/-- The transfer a log reports, `none` when the log is not a transfer. -/
def ofLog? (entry : LogEntry) : Option (Except AbiError TransferEvent) :=
  match entry.topics with
  | [topic, source, target, id] =>
    if topic = transferTopic then
      some <| (toU64 (Word.ofNatWrap id.toNat)).map fun tokenId =>
        { source := source.toAddress, target := target.toAddress, tokenId }
    else none
  | _ => none

/-- The log of a transfer emitted by `contract`. -/
def toLog (event : TransferEvent) (contract : Address) : LogEntry :=
  { address := contract,
    topics := [transferTopic, Hash32.ofAddress event.source, Hash32.ofAddress event.target,
      Hash32.ofNatWrap event.tokenId],
    data := [] }

/-- The transfers in a list of logs emitted by `contract`, in order; the first log with a bad
token id is an error. -/
def collectLogs (logs : List LogEntry) (contract : Address) :
    Except AbiError (List TransferEvent) :=
  (logs.filter (·.address = contract)).filterMap ofLog? |>.mapM id

/-- The transfers a receipt reports for `contract`. -/
def collect (receipt : Receipt) (contract : Address) : Except AbiError (List TransferEvent) :=
  collectLogs receipt.logs contract

/-- The JSON form: `from`, `to`, `token_id`, `is_mint`. -/
def toJson (event : TransferEvent) : Json :=
  .object [
    ("from", .string event.source.toHex),
    ("to", .string event.target.toHex),
    ("token_id", .nat event.tokenId),
    ("is_mint", .bool event.isMint)]

end TransferEvent

end NftProbe.Contract
