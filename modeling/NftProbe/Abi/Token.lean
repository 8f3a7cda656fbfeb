import NftProbe.Address
import NftProbe.Text.Quoted

/-!
# ABI values and their types

A `Token` is a value the contract interface passes: an address, a 256-bit unsigned integer, a
boolean, a string, a byte string, or a dynamic array of tokens. A `ParamType` is the type of
one. Strings, byte strings and arrays are dynamic: their contents live in the tail of an
encoding, after the heads.

`Token.render` is the text of a value in call descriptions: addresses in hex, integers in
decimal, strings quoted, byte strings in hex and arrays between brackets. The `as…`
conversions take a value of one kind and name the kind they found otherwise.
-/

set_option autoImplicit false

namespace NftProbe.Abi

/-- The type of an ABI value. -/
inductive ParamType
  | address
  | uint
  | bool
  | string
  | bytes
  | array (item : ParamType)
deriving DecidableEq, Repr

namespace ParamType

/-- Whether values of the type are encoded in the tail. -/
def isDynamic : ParamType → Bool
  | .string | .bytes | .array _ => true
  | _ => false

/-- The canonical name: `uint256` for integers and `[]` after the item type of an array. -/
def name : ParamType → String
  | .address => "address"
  | .uint => "uint256"
  | .bool => "bool"
  | .string => "string"
  | .bytes => "bytes"
  | .array item => item.name ++ "[]"

/-- The type named by a base name and a number of array suffixes. -/
def withSuffixes (base : ParamType) : Nat → ParamType
  | 0 => base
  | n + 1 => .array (withSuffixes base n)

/-- The type with a given name; `uint` is read as `uint256`. -/
def ofName? (text : String) : Option ParamType :=
  let chars := text.toList
  let baseChars := chars.takeWhile (· ≠ '[')
  let suffix := chars.drop baseChars.length
  let count := suffix.length / 2
  if suffix ≠ (List.replicate count ['[', ']']).flatten then none
  else
    let base? : Option ParamType :=
      match String.ofList baseChars with
      | "address" => some .address
      | "uint256" | "uint" => some .uint
      | "bool" => some .bool
      | "string" => some .string
      | "bytes" => some .bytes
      | _ => none
    base?.map fun base => withSuffixes base count

end ParamType

/-- An ABI value. -/
inductive Token
  | address (value : Address)
  | uint (value : Word)
  | bool (value : Bool)
  | string (value : String)
  | bytes (value : Bytes)
  | array (items : List Token)
deriving Repr

namespace Token

/-- Whether the value is encoded in the tail. -/
def isDynamic : Token → Bool
  | .string _ | .bytes _ | .array _ => true
  | _ => false

/-- The name of the value's kind. -/
def typeName : Token → String
  | .address _ => "address"
  | .uint _ => "uint256"
  | .bool _ => "bool"
  | .string _ => "string"
  | .bytes _ => "bytes"
  | .array _ => "array"

/-- The text of a value in call descriptions. -/
def render : Token → String
  | .address a => a.toHex
  | .uint w => w.toDecimal
  | .bool b => if b then "true" else "false"
  | .string s => Text.quote s
  | .bytes b => Hex.encodePrefixed b
  | .array items => "[" ++ ", ".intercalate (items.map render) ++ "]"

/-- The error for a value of the wrong kind. -/
def mismatch (expected : String) (found : Token) : AbiError :=
  .typeMismatch expected found.typeName

/-- The address held by an address value. -/
def asAddress : Token → Except AbiError Address
  | .address a => .ok a
  | other => .error (mismatch "address" other)

/-- The integer held by an integer value. -/
def asUint : Token → Except AbiError Word
  | .uint w => .ok w
  | other => .error (mismatch "uint256" other)

/-- The 64-bit integer held by an integer value. -/
def asU64 (token : Token) : Except AbiError Nat := do
  let w ← token.asUint
  match w.toU64? with
  | some n => .ok n
  | none => .error (.overflow "u64")

/-- The boolean held by a boolean value. -/
def asBool : Token → Except AbiError Bool
  | .bool b => .ok b
  | other => .error (mismatch "bool" other)

/-- The string held by a string value. -/
def asString : Token → Except AbiError String
  | .string s => .ok s
  | other => .error (mismatch "string" other)

/-- The items of an array value. -/
def asArray : Token → Except AbiError (List Token)
  | .array items => .ok items
  | other => .error (mismatch "array" other)

end Token

/-- A word narrowed to 64 bits, or `overflow "u64"`. -/
def toU64 (w : Word) : Except AbiError Nat :=
  match w.toU64? with
  | some n => .ok n
  | none => .error (.overflow "u64")

end NftProbe.Abi
