import NftProbe.Client.Interface
import NftProbe.Json.Read
import NftProbe.Abi.Decode
import NftProbe.Defaults
import NftProbe.Url

/-!
# A JSON-RPC client

A client for an Ethereum node spoken to over JSON-RPC. Every operation is one or more requests
`{"jsonrpc": "2.0", "id": n, "method": m, "params": p}` with ids counting up from 1, each
logged at debug level before it is sent.

How a request reaches the node is a `Transport`: a function from the URL and the request to
the response body, or to why it could not be delivered. The node behind it may keep state, and
delivering may log what the connection does.

A response is an object with an optional `result` and an optional `error`. An error whose
message mentions a revert is an execution failure; any other error is an RPC error. A body that
does not decode, with a result of the expected shape, is an invalid response.

Transactions are sent with `eth_sendTransaction` from an account the node holds, then the
receipt is polled until it shows up or the inclusion timeout has passed. Time is counted in
poll intervals: the receipt is asked for at 0, p, 2p, … and the client gives up at the first
ask at or after the timeout.
-/

set_option autoImplicit false

namespace NftProbe.Rpc

open Abi

/-- Delivers a request to the node at a URL: the response body, or why it could not be
delivered. The node's state `ν` may change, and delivering may log. -/
abbrev Transport (ν : Type) := String → Json → ν → Logged (Except String String × ν)

/-- A JSON-RPC client: the node's URL and state, the next request id, and how long to wait for
a transaction to be included and how often to ask. -/
structure RpcClient (ν : Type) where
  url : String
  node : ν
  nextId : Nat := 1
  inclusionTimeoutMs : Nat := defaultInclusionTimeoutMs
  pollIntervalMs : Nat := defaultPollIntervalMs

/-- An operation of a JSON-RPC client. -/
abbrev RpcM (ν : Type) := ClientM (RpcClient ν)

/-! ## Decoding results -/

/-- The values of hex digits, after an optional `0x`. -/
def hexDigits? (text : String) : Option (List Nat) :=
  let chars := text.toList
  let digits := match chars with
    | '0' :: 'x' :: rest => rest
    | _ => chars
  digits.mapM fun c =>
    if c.isDigit then some (c.toNat - '0'.toNat)
    else if 'a' ≤ c && c ≤ 'f' then some (c.toNat - 'a'.toNat + 10)
    else if 'A' ≤ c && c ≤ 'F' then some (c.toNat - 'A'.toNat + 10)
    else none

/-- The number hex digits denote. -/
def hexValue (digits : List Nat) : Nat :=
  digits.foldl (fun acc d => 16 * acc + d) 0

/-- A quantity: one to 64 hex digits. -/
def quantity? : Json → Option Word
  | .string text => do
    let digits ← hexDigits? text
    if digits.isEmpty || digits.length > 64 then none else Word.ofNat? (hexValue digits)
  | _ => none

/-- An address: exactly 40 hex digits. -/
def address? : Json → Option Address
  | .string text => do
    let digits ← hexDigits? text
    if digits.length == 40 then some (Address.ofNatWrap (hexValue digits)) else none
  | _ => none

/-- A 32-byte hash: exactly 64 hex digits. -/
def hash? : Json → Option Hash32
  | .string text => do
    let digits ← hexDigits? text
    if digits.length == 64 then some (Hash32.ofNatWrap (hexValue digits)) else none
  | _ => none

/-- A string. -/
def text? : Json → Option String
  | .string text => some text
  | _ => none

/-- A list of items. -/
def list? {α : Type} (item : Json → Option α) : Json → Option (List α)
  | .array items => items.mapM item
  | _ => none

/-- A member that may be absent or null. -/
def optionalField? {α : Type} (value : Json) (key : String) (item : Json → Option α) :
    Option (Option α) :=
  match value.field key with
  | .null => some none
  | member => (item member).map some

/-- A block as the node reports it: number, timestamp, miner and gas limit. -/
structure RpcBlock where
  number : Word
  timestamp : Word
  miner : Address
  gasLimit : Word

/-- Reads a block. -/
def block? (value : Json) : Option RpcBlock := do
  if !(value matches .object _) then none
  pure
    { number := ← quantity? (value.field "number"),
      timestamp := ← quantity? (value.field "timestamp"),
      miner := ← address? (value.field "miner"),
      gasLimit := ← quantity? (value.field "gasLimit") }

/-- An event as the node reports it, its data still in hex. -/
structure RpcLog where
  address : Address
  topics : List Hash32
  data : String

/-- Reads an event. -/
def log? (value : Json) : Option RpcLog := do
  if !(value matches .object _) then none
  pure
    { address := ← address? (value.field "address"),
      topics := ← list? hash? (value.field "topics"),
      data := ← text? (value.field "data") }

/-- A receipt as the node reports it. -/
structure RpcReceipt where
  transactionHash : Hash32
  blockNumber : Word
  gasUsed : Word
  status : Option Word
  contractAddress : Option Address
  logs : List RpcLog

/-- Reads a receipt; a missing status, contract address or log list is allowed. -/
def receipt? (value : Json) : Option RpcReceipt := do
  if !(value matches .object _) then none
  pure
    { transactionHash := ← hash? (value.field "transactionHash"),
      blockNumber := ← quantity? (value.field "blockNumber"),
      gasUsed := ← quantity? (value.field "gasUsed"),
      status := ← optionalField? value "status" quantity?,
      contractAddress := ← optionalField? value "contractAddress" address?,
      logs := (← optionalField? value "logs" (list? log?)).getD [] }

/-- The receipt a node's receipt stands for: event data is decoded, block number and gas used
must fit 64 bits, and a receipt without a status counts as a success. -/
def RpcReceipt.toReceipt (receipt : RpcReceipt) : Except ClientError Receipt := do
  let logs ← receipt.logs.mapM fun log => do
    let data ← (Hex.decodePrefixed log.data).mapError fun error =>
      ClientError.abi (.invalidHex error.message)
    pure { address := log.address, topics := log.topics, data : LogEntry }
  let blockNumber ← (toU64 receipt.blockNumber).mapError .abi
  let gasUsed ← (toU64 receipt.gasUsed).mapError .abi
  pure
    { txHash := receipt.transactionHash, blockNumber, gasUsed,
      status := (receipt.status.map fun s => s.toNat != 0).getD true,
      contractAddress := receipt.contractAddress, logs }

/-- A response: its result, if any, read with `result?`, and its error code and message, if
any; `none` when the body does not decode. -/
def response? {α : Type} (body : String) (result? : Json → Option α) :
    Option (Option α × Option (Int × String)) := do
  let value ← (Json.parse body).toOption
  if !(value matches .object _) then none
  let result ← optionalField? value "result" result?
  let error ← optionalField? value "error" fun error => do
    let code ← match error.field "code" with
      | .number (.nat n) => if n < i64MinMagnitude then some (n : Int) else none
      | .number (.negative i) => some i
      | _ => none
    pure (code, ← text? (error.field "message"))
  pure (result, error)

/-! ## Requests -/

/-- Sends one request and reads the result with `result?`: `none` when the node sent none. -/
def call {ν α : Type} (transport : Transport ν) (method : String) (params : Json)
    (result? : Json → Option α) : RpcM ν (Option α) := do
  emit .debug ("RPC request: " ++ method ++ " with params: " ++ params.compact)
  let client ← getThe (RpcClient ν)
  let request := Json.object [("jsonrpc", .string "2.0"), ("id", .nat client.nextId),
    ("method", .string method), ("params", params)]
  let (delivered, node) ← transport client.url request client.node
  set { client with nextId := client.nextId + 1, node }
  match delivered with
  | .error reason => throw (.transport reason)
  | .ok body =>
    match response? body result? with
    | none => throw (.invalidResponse method "error decoding response body")
    | some (_, some (code, message)) =>
      if (message.splitOn "revert").length > 1 then throw (.execution message)
      else throw (.rpc code message)
    | some (result, none) => pure result

/-- Sends one request whose result must be present. -/
def callRequired {ν α : Type} (transport : Transport ν) (method : String) (params : Json)
    (result? : Json → Option α) : RpcM ν α := do
  match ← call transport method params result? with
  | some result => pure result
  | none => throw (.invalidResponse method "missing result")

/-- The number of receipt requests before giving up: one at each multiple of the poll interval
below the timeout, and one at or after it. -/
def pollCount (timeoutMs intervalMs : Nat) : Nat :=
  (timeoutMs + intervalMs - 1) / max intervalMs 1 + 1

/-- Asks for a receipt at most `polls` times. -/
def waitFor {ν : Type} (transport : Transport ν) (txHash : Hash32) :
    Nat → RpcM ν (Option Receipt)
  | 0 => pure none
  | polls + 1 => do
    match ← call transport "eth_getTransactionReceipt" (.array [.string txHash.toHex]) receipt? with
    | some receipt =>
      match receipt.toReceipt with
      | .ok receipt => pure (some receipt)
      | .error error => throw error
    | none =>
      if polls == 0 then
        let client ← getThe (RpcClient ν)
        emit .warn ("Transaction " ++ txHash.toHex ++ " not included within " ++
          toString client.inclusionTimeoutMs ++ "ms")
        pure none
      else
        emit .trace ("Receipt for " ++ txHash.toHex ++ " not available yet")
        waitFor transport txHash polls

/-- Submits a transaction and waits for its receipt. -/
def submitAndWait {ν : Type} (transport : Transport ν) (tx : Json) : RpcM ν TxOutcome := do
  let txHash ← callRequired transport "eth_sendTransaction" (.array [tx]) hash?
  emit .debug ("Submitted transaction " ++ txHash.toHex)
  let client ← getThe (RpcClient ν)
  match ← waitFor transport txHash (pollCount client.inclusionTimeoutMs client.pollIntervalMs) with
  | some receipt => pure (TxOutcome.included receipt)
  | none => pure (TxOutcome.pending txHash)

/-- The chain id. -/
def chainId {ν : Type} (transport : Transport ν) : RpcM ν Nat := do
  let id ← callRequired transport "eth_chainId" (.array []) quantity?
  match toU64 id with
  | .ok id => pure id
  | .error error => throw (.abi error)

/-- The accounts the node holds. -/
def signers {ν : Type} (transport : Transport ν) : RpcM ν (List Address) :=
  callRequired transport "eth_accounts" (.array []) (list? address?)

/-- The balance of an account at the latest block. -/
def balance {ν : Type} (transport : Transport ν) (account : Address) : RpcM ν Word :=
  callRequired transport "eth_getBalance" (.array [.string account.toHex, .string "latest"])
    quantity?

/-- The chain id and the latest block. The chain id is asked first; when it fails, the block
is not asked for. -/
def snapshot {ν : Type} (transport : Transport ν) : RpcM ν BlockSnapshot := do
  let id ← chainId transport
  let block ← callRequired transport "eth_getBlockByNumber"
    (.array [.string "latest", .bool false]) block?
  let fit (w : Word) : RpcM ν Nat :=
    match toU64 w with
    | .ok n => pure n
    | .error error => throw (.abi error)
  pure
    { chainId := id, blockNumber := ← fit block.number, timestamp := ← fit block.timestamp,
      coinbase := block.miner, gasLimit := ← fit block.gasLimit }

/-- Creates a contract from `sender` with init code and constructor arguments. -/
def deploy {ν : Type} (transport : Transport ν) (sender : Address) (bytecode args : Bytes) :
    RpcM ν Deployment := do
  let outcome ← submitAndWait transport
    (.object [("from", .string sender.toHex),
      ("data", .string (Hex.encodePrefixed (bytecode ++ args)))])
  pure { address := outcome.receipt.bind (·.contractAddress), outcome }

/-- Sends a call to a contract as a transaction. -/
def send {ν : Type} (transport : Transport ν) (sender target : Address) (call : Call) :
    RpcM ν TxOutcome := do
  emit .debug ("Sending " ++ call.render ++ " to " ++ target.toHex)
  submitAndWait transport
    (.object [("from", .string sender.toHex), ("to", .string target.toHex),
      ("data", .string (Hex.encodePrefixed call.calldata))])

/-- Executes a read-only call. Empty return data for a call that returns values means there
is no contract at the target. -/
def read {ν : Type} (transport : Transport ν) (target : Address) (call : Call) :
    RpcM ν (List Token) := do
  let result ← callRequired transport "eth_call"
    (.array [.object [("to", .string target.toHex),
      ("data", .string (Hex.encodePrefixed call.calldata))], .string "latest"]) text?
  let data ← match Hex.decodePrefixed result with
    | .ok data => pure data
    | .error error => throw (.abi (.invalidHex error.message))
  if data.isEmpty && !call.returns.isEmpty then throw (.unknownContract target)
  match ← checked (decode call.returns data).run with
  | .ok tokens => pure tokens
  | .error error => throw (.abi error)

/-- The JSON-RPC client as a chain client over a transport. -/
def client {ν : Type} (transport : Transport ν) : Client (RpcClient ν) where
  chainId := chainId transport
  signers := signers transport
  balance := balance transport
  snapshot := snapshot transport
  deploy := deploy transport
  send := send transport
  read := read transport

/-- A transport to a node that cannot be reached: every request fails. A URL that does not
read is refused outright, and so is a URL of another scheme than `http` or `https`, named in
its normal form. A request to an `http` or `https` URL first opens a connection to its origin,
which fails. When `logConnections` is set, the attempt is logged at debug level, and the
decision not to send the request again at trace level. -/
def offline (logConnections : Bool) : Transport Unit := fun url _ node =>
  match Url.parse? url with
  | none => pure (.error "builder error", node)
  | some parsed =>
    if parsed.isHttp && parsed.hasHost then do
      if logConnections then
        emit .debug ("starting new connection: " ++ parsed.origin)
        emit .trace "shouldn't retry!"
      pure (.error ("error sending request for url (" ++ parsed.render ++ ")"), node)
    else pure (.error ("builder error for url (" ++ parsed.render ++ ")"), node)

end NftProbe.Rpc
