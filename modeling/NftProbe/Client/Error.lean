import NftProbe.Abi.Json
import NftProbe.Text.Quoted

/-!
# Why a chain client call failed

`ClientError` names each way a call to a chain can fail: the node answered with an error, it
could not be reached, its answer was unreadable, the contract reverted, there is no contract
at the address, the client does not offer the call, or a value could not be read.

`message` is the text of an error. `debugText` is its structural form, as it appears in debug
log lines: the constructor and its fields, strings quoted.
-/

set_option autoImplicit false

namespace NftProbe

open Abi

/-- The failures of a chain client call. -/
inductive ClientError
  | rpc (code : Int) (message : String)
  | transport (detail : String)
  | invalidResponse (method reason : String)
  | execution (reason : String)
  | unknownContract (address : Address)
  | unsupportedCall (operation : String)
  | abi (error : AbiError)
deriving DecidableEq, Repr

namespace ClientError

/-- The text of a client error. -/
def message : ClientError → String
  | .rpc code text => "RPC error " ++ toString code ++ ": " ++ text
  | .transport detail => "Transport error: " ++ detail
  | .invalidResponse method reason => "Invalid response for " ++ method ++ ": " ++ reason
  | .execution reason => "Execution reverted: " ++ reason
  | .unknownContract address => "No contract deployed at " ++ address.toHex
  | .unsupportedCall operation => "Unsupported operation '" ++ operation ++ "'"
  | .abi error => error.message

/-- The kind of a client error, as named in reports. -/
def kind : ClientError → String
  | .rpc .. => "Rpc"
  | .transport _ => "Transport"
  | .invalidResponse .. => "InvalidResponse"
  | .execution _ => "Execution"
  | .unknownContract _ => "UnknownContract"
  | .unsupportedCall _ => "UnsupportedCall"
  | .abi error => "Abi::" ++ error.kind

end ClientError

/-- The structural form of an ABI error. -/
def Abi.AbiError.debugText : AbiError → String
  | .invalidAddress text => "InvalidAddress(" ++ Text.quote text ++ ")"
  | .unexpectedEnd offset needed available =>
    "UnexpectedEnd \x7b offset: " ++ toString offset ++ ", needed: " ++ toString needed ++
      ", available: " ++ toString available ++ " \x7d"
  | .overflow target => "Overflow(" ++ Text.quote target ++ ")"
  | .invalidUtf8 => "InvalidUtf8"
  | .invalidBool => "InvalidBool"
  | .typeMismatch expected found =>
    "TypeMismatch \x7b expected: " ++ Text.quote expected ++ ", found: " ++ Text.quote found ++
      " \x7d"
  | .arity expected found =>
    "Arity \x7b expected: " ++ toString expected ++ ", found: " ++ toString found ++ " \x7d"
  | .invalidHex detail => "InvalidHex(" ++ Text.quote detail ++ ")"

/-- The structural form of a client error. -/
def ClientError.debugText : ClientError → String
  | .rpc code text =>
    "Rpc \x7b code: " ++ toString code ++ ", message: " ++ Text.quote text ++ " \x7d"
  | .transport detail => "Transport(" ++ Text.quote detail ++ ")"
  | .invalidResponse method reason =>
    "InvalidResponse \x7b method: " ++ Text.quote method ++ ", reason: " ++ Text.quote reason ++
      " \x7d"
  | .execution reason => "Execution(" ++ Text.quote reason ++ ")"
  | .unknownContract address => "UnknownContract(" ++ address.toHex ++ ")"
  | .unsupportedCall operation => "UnsupportedCall(" ++ Text.quote operation ++ ")"
  | .abi error => "Abi(" ++ error.debugText ++ ")"

end NftProbe
