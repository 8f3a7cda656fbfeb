import NftProbe.Abi.Token
import NftProbe.Json.Value

/-!
# ABI values as JSON

A value is a one-member object named by its kind: `{"address": "0x…"}`, `{"uint": "123"}`
(decimal text, since 256-bit integers do not fit JSON numbers), `{"bool": true}`,
`{"string": "…"}`, `{"bytes": "0x…"}`, `{"array": [values]}`. `Token.ofJson?` reads that form
back; how an address text is read is left to the caller.
-/

set_option autoImplicit false

namespace NftProbe.Abi

/-- The kind of an ABI error, as named in reports. -/
def AbiError.kind : AbiError → String
  | .invalidAddress _ => "InvalidAddress"
  | .unexpectedEnd .. => "UnexpectedEnd"
  | .overflow _ => "Overflow"
  | .invalidUtf8 => "InvalidUtf8"
  | .invalidBool => "InvalidBool"
  | .typeMismatch .. => "TypeMismatch"
  | .arity .. => "Arity"
  | .invalidHex _ => "InvalidHex"

namespace Token

/-- The JSON form of a value. -/
def toJson : Token → Json
  | .address a => .object [("address", .string a.toHex)]
  | .uint w => .object [("uint", .string w.toDecimal)]
  | .bool b => .object [("bool", .bool b)]
  | .string s => .object [("string", .string s)]
  | .bytes b => .object [("bytes", .string (Hex.encodePrefixed b))]
  | .array items => .object [("array", .array (items.map toJson))]

/-- A word written in decimal. -/
def wordOfDecimal? (text : String) : Option Word :=
  if text.isEmpty || !text.all Char.isDigit then none
  else Word.ofNat? (text.foldl (fun acc c => 10 * acc + (c.toNat - 48)) 0)

/-- The value of a JSON form; `address` reads address texts. -/
def ofJson? (address : String → Except String Address) : Json → Except String Token
  | .object [("address", .string text)] => .address <$> address text
  | .object [("uint", .string text)] =>
    match wordOfDecimal? text with
    | some w => .ok (.uint w)
    | none => .error ("bad uint " ++ text)
  | .object [("bool", .bool b)] => .ok (.bool b)
  | .object [("string", .string s)] => .ok (.string s)
  | .object [("bytes", .string text)] =>
    match Hex.decodePrefixed text with
    | .ok data => .ok (.bytes data)
    | .error e => .error e.message
  | .object [("array", .array items)] => .array <$> items.mapM (ofJson? address)
  | _ => .error "bad token"

end Token

end NftProbe.Abi
