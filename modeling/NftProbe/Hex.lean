import NftProbe.Bytes
import NftProbe.Text.Quoted

/-!
# Hexadecimal text of byte strings

`Hex.encode` writes two lowercase digits per byte. `Hex.decode` reads the digits back, in
either case, and refuses text of odd length before it looks at any digit; otherwise it names
the first byte of the text that is not a digit, with its position. Positions count bytes of
the UTF-8 text, and a refused byte is shown as the character with that code.
-/

set_option autoImplicit false

namespace NftProbe

/-- Why a text is not hexadecimal. -/
inductive HexError
  | oddLength
  | invalidCharacter (byte : UInt8) (position : Nat)
deriving DecidableEq, Repr

/-- The text of a hex error. -/
def HexError.message : HexError → String
  | .oddLength => "Odd number of digits"
  | .invalidCharacter byte position =>
    "Invalid character " ++ Text.quoteChar (Char.ofNat byte.toNat) ++ " at position " ++
      toString position

namespace Hex

/-- The lowercase digit of a number below 16. -/
def digit (value : Nat) : Char :=
  if value < 10 then Char.ofNat (48 + value) else Char.ofNat (87 + value)

/-- Two lowercase digits per byte. -/
def encode (bytes : Bytes) : String :=
  String.ofList (bytes.flatMap fun byte => [digit (byte.toNat / 16), digit (byte.toNat % 16)])

/-- The `0x`-prefixed lowercase form. -/
def encodePrefixed (bytes : Bytes) : String :=
  "0x" ++ encode bytes

/-- The value of a hex digit given as a byte of text, in either case. -/
def digitValue? (byte : UInt8) : Option Nat :=
  if 48 ≤ byte ∧ byte ≤ 57 then some (byte.toNat - 48)
  else if 97 ≤ byte ∧ byte ≤ 102 then some (byte.toNat - 87)
  else if 65 ≤ byte ∧ byte ≤ 70 then some (byte.toNat - 55)
  else none

/-- The bytes denoted by pairs of digits; `position` is the index of the first digit. -/
def decodeDigits (position : Nat) : List UInt8 → Except HexError Bytes
  | [] => .ok []
  | [byte] => .error (.invalidCharacter byte position)
  | high :: low :: rest =>
    match digitValue? high, digitValue? low with
    | none, _ => .error (.invalidCharacter high position)
    | some _, none => .error (.invalidCharacter low (position + 1))
    | some h, some l => do
      let tail ← decodeDigits (position + 2) rest
      return UInt8.ofNat (16 * h + l) :: tail

/-- The bytes of a hex text without prefix. -/
def decode (text : String) : Except HexError Bytes :=
  let raw := text.toUTF8.toList
  if raw.length % 2 = 1 then .error .oddLength else decodeDigits 0 raw

/-- The text after one leading `prefixText`, or the whole text. -/
def stripPrefix (text prefixText : String) : String :=
  if text.startsWith prefixText then text.drop prefixText.length |>.toString else text

/-- The bytes of a hex text, after one leading `0x` if there is one. -/
def decodePrefixed (text : String) : Except HexError Bytes :=
  decode (stripPrefix text "0x")

end Hex

end NftProbe
