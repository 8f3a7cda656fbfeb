import NftProbe.Abi.Token

/-!
# Encoding ABI values

`Abi.encode` lays a list of values out in heads and a tail. Each value has one 32-byte head:
a static value (address, integer, boolean) is its own head; a dynamic one has in its head the
offset of its contents from the start of the list, and its contents are appended to the tail.
A string or byte string is its length followed by its bytes, padded with zeros to a multiple
of 32; an array is its length followed by the encoding of its items as a list.
-/

set_option autoImplicit false

namespace NftProbe.Abi

/-- The size of a head and of a length word. -/
def wordSize : Nat := 32

/-- The word of a static value: an address in the low 20 bytes, an integer big-endian, a
boolean as 0 or 1. -/
def encodeStatic : Token → Bytes
  | .address a => a.toWord.toBytes
  | .uint w => w.toBytes
  | .bool b => (Word.ofNatWrap (if b then 1 else 0)).toBytes
  | _ => Bytes.zeros wordSize

/-- A length word, the bytes, and zeros up to a multiple of 32. -/
def encodePadded (data : Bytes) : Bytes :=
  let rest := data.length % wordSize
  (Word.ofNatWrap data.length).toBytes ++ data ++
    (if rest = 0 then [] else Bytes.zeros (wordSize - rest))

mutual

/-- The contents of a dynamic value, as they stand in the tail. -/
def encodeContents : Token → Bytes
  | .string s => encodePadded s.toUTF8.toList
  | .bytes b => encodePadded b
  | .array items =>
    let parts := encodeParts (wordSize * items.length) 0 items
    (Word.ofNatWrap items.length).toBytes ++ parts.1 ++ parts.2
  | .address a => encodeStatic (.address a)
  | .uint w => encodeStatic (.uint w)
  | .bool b => encodeStatic (.bool b)

/-- Heads and tail of `tokens`, for a list whose heads take `headLength` bytes and whose tail
already holds `tailLength` bytes before them. -/
def encodeParts (headLength tailLength : Nat) : List Token → Bytes × Bytes
  | [] => ([], [])
  | token :: rest =>
    if token.isDynamic then
      let contents := encodeContents token
      let later := encodeParts headLength (tailLength + contents.length) rest
      ((Word.ofNatWrap (headLength + tailLength)).toBytes ++ later.1, contents ++ later.2)
    else
      let later := encodeParts headLength tailLength rest
      (encodeStatic token ++ later.1, later.2)

end

/-- The encoding of a list of values: all heads, then the tail. -/
def encode (tokens : List Token) : Bytes :=
  let parts := encodeParts (wordSize * tokens.length) 0 tokens
  parts.1 ++ parts.2

end NftProbe.Abi
