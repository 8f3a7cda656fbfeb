import NftProbe.Abi.Encode

/-!
# Decoding ABI values

`Abi.decode` reads a list of values of given types from bytes. The value at index `i` of a
list starting at `base` has its head at `base + 32 i`. A static value is read from its head;
the head of a dynamic value holds an offset from `base`, and its contents start there.

Offsets and lengths are 64-bit: a head or a length above 2^64 - 1 is refused with
`overflow "usize"`, and so is a read whose end passes that bound. Offsets added to a base
saturate at the bound. An array whose length could not fit in the data (more items than
32-byte words in it) is refused before its items are read; the error names the bytes the items
would need, and computing that number halts the program when it passes 2^64 - 1.
-/

set_option autoImplicit false

namespace NftProbe.Abi

/-- Decoding fails with an ABI error, or halts on an arithmetic overflow. -/
abbrev Decoding := ExceptT AbiError (Except Overflow)

/-- `length` bytes of the data at `offset`. -/
def slice (data : Bytes) (offset length : Nat) : Decoding Bytes :=
  if offset + length > u64Max then throw (.overflow "usize")
  else
    match data.slice? offset length with
    | some bytes => pure bytes
    | none => throw (.unexpectedEnd offset length (data.length - offset))

/-- The 64-bit number in the word at `offset`: an offset or a length. -/
def readLength (data : Bytes) (offset : Nat) : Decoding Nat := do
  let word ← slice data offset wordSize
  let value := Bytes.toNat word
  if value > u64Max then throw (.overflow "usize") else pure value

/-- A static value of type `type` from the word at `offset`. -/
def decodeStatic (type : ParamType) (data : Bytes) (offset : Nat) : Decoding Token := do
  let word ← slice data offset wordSize
  match type with
  | .address => pure (.address (Address.ofBytes word))
  | .uint => pure (.uint (Word.ofBytes word))
  | .bool =>
    let last := word.getD 31 0
    if (word.take 31).any (· != 0) || last > 1 then throw .invalidBool
    else pure (.bool (last == 1))
  | _ => throw (.typeMismatch "static type" "dynamic type")

/-- The text of UTF-8 bytes, or `invalidUtf8`. -/
def decodeUtf8 (bytes : Bytes) : Decoding String :=
  match String.fromUTF8? (ByteArray.mk bytes.toArray) with
  | some text => pure text
  | none => throw .invalidUtf8

/-- The value of type `type` at index `index` of the list starting at `base`. -/
def decodeAt : ParamType → Bytes → Nat → Nat → Decoding Token
  | .string, data, base, index => do
    let start := U64.saturatingAdd base (← readLength data (base + wordSize * index))
    let length ← readLength data start
    let bytes ← slice data (U64.saturatingAdd start wordSize) length
    return .string (← decodeUtf8 bytes)
  | .bytes, data, base, index => do
    let start := U64.saturatingAdd base (← readLength data (base + wordSize * index))
    let length ← readLength data start
    return .bytes (← slice data (U64.saturatingAdd start wordSize) length)
  | .array item, data, base, index => do
    let start := U64.saturatingAdd base (← readLength data (base + wordSize * index))
    let length ← readLength data start
    if length > data.length / wordSize then
      let needed ← liftM (m := Except Overflow) (U64.checkedMul length wordSize)
      throw (.unexpectedEnd start needed (data.length - start))
    let items ← (List.range length).mapM fun i =>
      decodeAt item data (U64.saturatingAdd start wordSize) i
    return .array items
  | .address, data, base, index => decodeStatic .address data (base + wordSize * index)
  | .uint, data, base, index => decodeStatic .uint data (base + wordSize * index)
  | .bool, data, base, index => decodeStatic .bool data (base + wordSize * index)

/-- The values of the given types, read from the start of the data. -/
def decode (types : List ParamType) (data : Bytes) : Decoding (List Token) :=
  (types.zipIdx).mapM fun (type, index) => decodeAt type data 0 index

end NftProbe.Abi
