import NftProbe.Abi.Decode
import NftProbe.Keccak

/-!
# Contract calls

A `Call` is an invocation of a contract function: its canonical signature (`name(types)`), its
arguments, and the types of the values it returns (none for a transaction). Its calldata is
the selector, the first four bytes of the Keccak hash of the signature, followed by the
encoded arguments. An event's topic is the whole hash of its signature.
-/

set_option autoImplicit false

namespace NftProbe.Abi

/-- The first four bytes of the hash of a function signature. -/
def selector (signature : String) : Bytes :=
  (Keccak.hash signature.toUTF8.toList).take 4

/-- The topic of an event: the hash of its signature. -/
def eventTopic (signature : String) : Hash32 :=
  Hash32.ofBytes (Keccak.hash signature.toUTF8.toList)

/-- An invocation of a contract function. -/
structure Call where
  signature : String
  args : List Token
  returns : List ParamType := []
deriving Repr

namespace Call

/-- The function name: the signature up to its parameter list. -/
def name (call : Call) : String :=
  String.ofList (call.signature.toList.takeWhile (· ≠ '('))

/-- The selector of the call's function. -/
def selectorBytes (call : Call) : Bytes :=
  selector call.signature

/-- The bytes sent to the contract: selector, then the encoded arguments. -/
def calldata (call : Call) : Bytes :=
  call.selectorBytes ++ encode call.args

/-- `name(arg, arg)`, each argument rendered. -/
def render (call : Call) : String :=
  call.name ++ "(" ++ ", ".intercalate (call.args.map Token.render) ++ ")"

end Call

end NftProbe.Abi
