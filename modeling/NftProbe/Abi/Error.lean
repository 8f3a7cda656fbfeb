/-!
# Why a value cannot be read or converted

`AbiError` names each way an ABI value can fail to be read from bytes, converted to a
narrower type, or parsed from text; `AbiError.message` is its text.
-/

set_option autoImplicit false

namespace NftProbe.Abi

/-- The failures of reading, converting and parsing ABI values. -/
inductive AbiError
  /-- A text that is not a 20-byte hex address. -/
  | invalidAddress (text : String)
  /-- Data that ends before `needed` bytes at `offset`; `available` bytes are left there. -/
  | unexpectedEnd (offset needed available : Nat)
  /-- A number too large for the named integer type. -/
  | overflow (target : String)
  | invalidUtf8
  | invalidBool
  /-- A value of kind `found` where one of kind `expected` was wanted. -/
  | typeMismatch (expected found : String)
  /-- A list of `found` values where `expected` were wanted. -/
  | arity (expected found : Nat)
  | invalidHex (detail : String)
deriving DecidableEq, Repr

/-- The text of an ABI error. -/
def AbiError.message : AbiError → String
  | .invalidAddress text => "Invalid address: " ++ text
  | .unexpectedEnd offset needed available =>
    "Unexpected end of data: need " ++ toString needed ++ " bytes at offset " ++
      toString offset ++ ", have " ++ toString available
  | .overflow target => "Value does not fit in " ++ target
  | .invalidUtf8 => "Invalid UTF-8 in string value"
  | .invalidBool => "Invalid boolean word"
  | .typeMismatch expected found => "Type mismatch: expected " ++ expected ++ ", found " ++ found
  | .arity expected found =>
    "Expected " ++ toString expected ++ " return values, got " ++ toString found
  | .invalidHex detail => "Invalid hex data: " ++ detail

end NftProbe.Abi
