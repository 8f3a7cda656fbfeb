import NftProbe.Json.Value
import NftProbe.U64

/-!
# Reading JSON text

`Json.readAs` reads a JSON text against a `Schema`: any value, a 64-bit unsigned integer, a
boolean, a string, an optional value, a sequence, one of a list of names, or a record with
named fields. `Json.parse` reads any value. The result is the value in normal form: a record
comes back as an object with every field, in declaration order, missing ones filled with their
defaults.

The reader is a single pass over the bytes of the text and stops at the first fault, in text
order, so of two faults the earlier one is reported. A fault of syntax is placed at the byte
where it was seen; a value of the wrong type, an unknown name, a missing or repeated field is
placed after the text that was read to find it. A record may also be written as an array of
its fields in order. The text of a fault ends with `at line L column C`, where the column
counts the bytes of the line up to and including the place.

An integer that fits in 64 bits is read exactly. Any other number is built from the leading
digits that fit in 64 bits and a power of ten, by one multiplication or division of doubles,
so it is not always the double nearest to the text: `12345678901234567.0` reads as
`1.2345678901234566e16`. The value of a field that the record does not name is checked for
syntax only: its numbers are not converted, and its strings may hold lone surrogates.
-/

set_option autoImplicit false

namespace NftProbe

/-- A fault in a JSON text: its description and, once placed, its line and column. -/
structure JsonError where
  description : String
  place : Option (Nat × Nat) := none
deriving Repr

/-- The text of a fault, with its place. -/
def JsonError.message (error : JsonError) : String :=
  match error.place with
  | some (line, column) =>
    error.description ++ " at line " ++ toString line ++ " column " ++ toString column
  | none => error.description

/-- What a JSON text is read as. -/
inductive Schema
  /-- Any value. -/
  | any
  /-- A 64-bit unsigned integer. -/
  | u64
  | bool
  | string
  /-- `null` or a value of the inner schema. -/
  | optional (inner : Schema)
  /-- An array of values of the item schema. -/
  | sequence (item : Schema)
  /-- One of the names, written as a string; `typeName` names the type in faults. -/
  | choice (typeName : String) (names : List String)
  /-- A record: each field has a name, a schema and perhaps a default for when it is
  absent. -/
  | record (typeName : String) (fields : List (String × Schema × Option Json))

namespace JsonRead

/-- Where the reader is: the index of the next unread byte, and whether the byte there has been
looked at. A text read as a stream has taken a byte in once it was looked at, so a fault placed
after the bytes read so far counts that byte too. -/
structure Cursor where
  index : Nat
  lookahead : Bool := false
  streaming : Bool := false

/-- The number of bytes a fault placed here counts as read. -/
def Cursor.taken (cursor : Cursor) : Nat :=
  if cursor.streaming && cursor.lookahead then cursor.index + 1 else cursor.index

/-- The reader's state is its cursor. A fault keeps the cursor reached, so that a fault without
a place is placed where reading stopped. -/
abbrev ReadM := ExceptT JsonError (StateM Cursor)

/-- The index of the next unread byte. -/
def here : ReadM Nat := do
  return (← get).index

/-- Moves to an index; `looked` tells whether the byte there has been looked at. -/
def moveTo (index : Nat) (looked : Bool) : ReadM Unit :=
  modify fun cursor => { cursor with index, lookahead := looked }

/-- Line and column of the place just before byte `index`. -/
def placeOf (source : ByteArray) (index : Nat) : Nat × Nat :=
  let before := (source.extract 0 index).toList
  let newlines := before.filter (· == 10) |>.length
  let lastLine := before.reverse.takeWhile (· != 10) |>.length
  (1 + newlines, lastLine)

/-- A fault placed after the bytes read so far. -/
def failHere {α : Type} (source : ByteArray) (description : String) : ReadM α := do
  throw { description, place := some (placeOf source (← get).taken) }

/-- A fault placed at the next byte. -/
def failAtNext {α : Type} (source : ByteArray) (description : String) : ReadM α := do
  throw { description, place := some (placeOf source (min source.size ((← here) + 1))) }

/-- Places a fault that has no place yet after the bytes read so far. -/
def placed {α : Type} (source : ByteArray) (action : ReadM α) : ReadM α :=
  tryCatch action fun error => do
    match error.place with
    | some _ => throw error
    | none => throw { error with place := some (placeOf source (← get).taken) }

/-- The next byte, not consumed. -/
def peek (source : ByteArray) : ReadM (Option UInt8) := do
  let index ← here
  let byte := source[index]?
  moveTo index byte.isSome
  return byte

/-- Consumes one byte. -/
def advance : ReadM Unit :=
  modify fun cursor => { cursor with index := cursor.index + 1, lookahead := false }

/-- The next byte, consumed. -/
def next (source : ByteArray) : ReadM (Option UInt8) := do
  let byte ← peek source
  if byte.isSome then advance
  return byte

/-- Skips blanks and returns the next byte, not consumed. -/
def skipBlanks (source : ByteArray) : ReadM (Option UInt8) := do
  let start ← here
  let rest := (source.extract start source.size).toList
  let blanks := rest.takeWhile fun b => b == 32 || b == 10 || b == 9 || b == 13
  moveTo (start + blanks.length) false
  peek source

/-- Reads the rest of a keyword whose first byte was consumed. -/
def keyword (source : ByteArray) (rest : List UInt8) : ReadM Unit :=
  rest.forM fun expected => do
    match ← next source with
    | none => failHere source "EOF while parsing a value"
    | some byte => if byte != expected then failHere source "expected ident"

/-- Whether a byte is a decimal digit. -/
def isDigit (byte : UInt8) : Bool := 48 ≤ byte && byte ≤ 57

/-- The decimal digits from the current byte on, consumed. -/
def digits (source : ByteArray) : ReadM (List UInt8) := do
  let start ← here
  let run := (source.extract start source.size).toList.takeWhile isDigit
  moveTo (start + run.length) (start + run.length < source.size)
  return run

/-- The number a list of decimal digits denotes. -/
def digitsValue (run : List UInt8) : Nat :=
  run.foldl (fun acc d => 10 * acc + (d.toNat - 48)) 0

/-- The powers of ten `10^0` to `10^308` as doubles, each the nearest to its exact value. -/
def powersOfTen : Array Float :=
  ((List.range 309).map fun k => Double.ofRatio (Nat.pow 10 k) 1).toArray

/-- The double of `significand · 10^exponent`, computed the quick way: the significand becomes
a double, which is multiplied or divided by one power of ten from the table, after dividing by
`10^308` while the power is beyond it. Each step rounds, so the result may miss the nearest
double by a unit in the last place. `none` when a product overflows. -/
def scaleDecimal (significand : Nat) (exponent : Int) : Option Float :=
  go 8 significand.toUInt64.toFloat exponent
where
  /-- One step; `fuel` bounds the divisions, of which two bring any significand to zero. -/
  go : Nat → Float → Int → Option Float
    | 0, f, _ => some f
    | fuel + 1, f, e =>
      if e.natAbs ≤ 308 then
        let power := powersOfTen.getD e.natAbs 1.0
        if e ≥ 0 then
          let product := f * power
          if product.isInf then none else some product
        else some (f / power)
      else if f == 0.0 then some f
      else if e ≥ 0 then none
      else go fuel (f / powersOfTen.getD 308 1.0) (e + 308)

/-- The largest exponent a number may write, `2^31 - 1`. -/
def exponentLimit : Nat := 2147483647

/-- The length of the longest prefix of `run` that can be appended, digit by digit, to
`start` without passing `limit`, and the value reached. -/
def fitDigits (limit start : Nat) (run : List UInt8) : Nat × Nat :=
  go run 0 start
where
  /-- Appends digits while the value stays within the limit. -/
  go : List UInt8 → Nat → Nat → Nat × Nat
    | [], count, acc => (count, acc)
    | d :: rest, count, acc =>
      let next := 10 * acc + (d.toNat - 48)
      if next > limit then (count, acc) else go rest (count + 1) next

/-- Reads the exponent of a number at its `e`, for a significand and the decimal exponent so
far. An exponent beyond the limit gives zero when it is negative or the significand is zero,
and is out of range otherwise, at the digit that passed the limit. -/
def exponentPart (source : ByteArray) (negative : Bool) (significand : Nat) (scale : Int) :
    ReadM Float := do
  advance
  let negativeExponent ← match ← peek source with
    | some 43 => do advance; pure false
    | some 45 => do advance; pure true
    | _ => pure false
  match ← next source with
  | none => failHere source "EOF while parsing a value"
  | some byte =>
    if !isDigit byte then failHere source "invalid number"
    let start ← here
    let run ← digits source
    let (taken, magnitude) := fitDigits exponentLimit (byte.toNat - 48) run
    if taken < run.length then
      if significand != 0 && !negativeExponent then
        moveTo (start + taken + 1) false
        failHere source "number out of range"
      return (if negative then -0.0 else 0.0)
    let limit : Int := exponentLimit
    let total := if negativeExponent then max (scale - magnitude) (-limit - 1)
      else min (scale + magnitude) limit
    match scaleDecimal significand total with
    | some f => return (if negative then -f else f)
    | none => failHere source "number out of range"

/-- Reads a number whose sign was consumed; `negative` tells the sign. The significand keeps
the digits that fit in 64 bits: further digits before the point raise the exponent, further
digits after it are dropped. -/
def number (source : ByteArray) (negative : Bool) : ReadM JsonNumber := do
  let first ← match ← next source with
    | none => failHere source "EOF while parsing a value"
    | some byte => pure byte
  let integral ← if first == 48 then
      if (← peek source).any isDigit then failAtNext source "invalid number" else pure []
    else if isDigit first then digits source
    else failHere source "invalid number"
  let (kept, significand) := fitDigits u64Max (first.toNat - 48) integral
  let scale : Int := integral.length - kept
  let byte ← peek source
  if byte == some 46 then
    advance
    let fraction ← digits source
    if fraction.isEmpty then
      match ← peek source with
      | some _ => failAtNext source "invalid number"
      | none => failAtNext source "EOF while parsing a value"
    let (keptFraction, significand) := fitDigits u64Max significand fraction
    let scale := scale - keptFraction
    if (← peek source) == some 101 || (← peek source) == some 69 then
      return .float (← exponentPart source negative significand scale)
    match scaleDecimal significand scale with
    | some f => return .float (if negative then -f else f)
    | none => failHere source "number out of range"
  else if byte == some 101 || byte == some 69 then
    return .float (← exponentPart source negative significand scale)
  else if kept < integral.length then
    match scaleDecimal significand scale with
    | some f => return .float (if negative then -f else f)
    | none => failHere source "number out of range"
  else if !negative then return .nat significand
  else if significand = 0 then return .float (-0.0)
  else if significand ≤ i64MinMagnitude then return .negative (-(significand : Int))
  else return .float (-significand.toUInt64.toFloat)

/-- The code unit of four hex digits. -/
def hexQuad (bytes : List UInt8) : Option Nat :=
  bytes.foldlM (fun acc b =>
    if isDigit b then some (16 * acc + (b.toNat - 48))
    else if 97 ≤ b && b ≤ 102 then some (16 * acc + (b.toNat - 87))
    else if 65 ≤ b && b ≤ 70 then some (16 * acc + (b.toNat - 55))
    else none) 0

/-- Reads four hex digits of an escape. -/
def escapeUnit (source : ByteArray) : ReadM Nat := do
  let start ← here
  if start + 4 > source.size then
    moveTo source.size false
    failHere source "EOF while parsing a string"
  moveTo (start + 4) false
  match hexQuad (source.extract start (start + 4)).toList with
  | some unit => return unit
  | none => failHere source "invalid escape"

/-- Reads the character of a `\u` escape whose `u` was consumed. A leading surrogate must be
followed by the escape of a trailing one. -/
def unicodeEscape (source : ByteArray) : ReadM Char := do
  let first ← escapeUnit source
  if 0xDC00 ≤ first && first ≤ 0xDFFF then
    failHere source "lone leading surrogate in hex escape"
  else if 0xD800 ≤ first && first ≤ 0xDBFF then
    let index ← here
    match source[index]?, source[index + 1]? with
    | none, _ => failHere source "EOF while parsing a string"
    | some 92, none =>
      moveTo (index + 1) false
      failHere source "EOF while parsing a string"
    | some 92, some 117 =>
      moveTo (index + 2) false
      let second ← escapeUnit source
      if 0xDC00 ≤ second && second ≤ 0xDFFF then
        return Char.ofNat (0x10000 + ((first - 0xD800) <<< 10) + (second - 0xDC00))
      else failHere source "lone leading surrogate in hex escape"
    | some 92, some _ =>
      moveTo (index + 2) false
      failHere source "unexpected end of hex escape"
    | some _, _ =>
      moveTo (index + 1) false
      failHere source "unexpected end of hex escape"
  else return Char.ofNat first

/-- The text of UTF-8 bytes. -/
def utf8 (bytes : List UInt8) : String :=
  (String.fromUTF8? (ByteArray.mk bytes.toArray)).getD ""

/-- Reads the rest of a string whose opening quote was consumed; `fuel` bounds the escapes. -/
def stringBody (source : ByteArray) : Nat → String → ReadM String
  | 0, _ => failHere source "EOF while parsing a string"
  | fuel + 1, acc => do
    let start ← here
    let run := (source.extract start source.size).toList.takeWhile
      fun b => b != 34 && b != 92 && b ≥ 32
    moveTo (start + run.length) false
    let acc := acc ++ utf8 run
    match ← next source with
    | none => failHere source "EOF while parsing a string"
    | some 34 => return acc
    | some 92 =>
      match ← next source with
      | none => failHere source "EOF while parsing a string"
      | some 34 => stringBody source fuel (acc.push '"')
      | some 92 => stringBody source fuel (acc.push '\\')
      | some 47 => stringBody source fuel (acc.push '/')
      | some 98 => stringBody source fuel (acc.push '\x08')
      | some 102 => stringBody source fuel (acc.push '\x0c')
      | some 110 => stringBody source fuel (acc.push '\n')
      | some 114 => stringBody source fuel (acc.push '\r')
      | some 116 => stringBody source fuel (acc.push '\t')
      | some 117 => do
        let c ← unicodeEscape source
        stringBody source fuel (acc.push c)
      | some _ => failHere source "invalid escape"
    | some _ => failHere source "control character (\\u0000-\\u001F) found while parsing a string"

/-- Reads a string at an opening quote. -/
def string (source : ByteArray) : ReadM String := do
  advance
  stringBody source (source.size + 1) ""

/-! ### Skipping values

The value of an unknown field is skipped: its syntax is checked but nothing is built, so a number
is never out of range and a string escape is never checked for pairing. The checks differ in a
few places from those of reading: a missing fraction digit is an invalid number even at the
end, and a control character in a string is placed before it, unless the text is a stream. -/

/-- Skips the rest of a string whose opening quote was consumed; `fuel` bounds the escapes. -/
def skipString (source : ByteArray) : Nat → ReadM Unit
  | 0 => failHere source "EOF while parsing a string"
  | fuel + 1 => do
    let start ← here
    let run := (source.extract start source.size).toList.takeWhile
      fun b => b != 34 && b != 92 && b ≥ 32
    moveTo (start + run.length) false
    match source[start + run.length]? with
    | none => failHere source "EOF while parsing a string"
    | some 34 => advance
    | some 92 =>
      advance
      match ← next source with
      | none => failHere source "EOF while parsing a string"
      | some byte =>
        if [34, 92, 47, 98, 102, 110, 114, 116].contains byte then skipString source fuel
        else if byte == 117 then do
          let _ ← escapeUnit source
          skipString source fuel
        else failHere source "invalid escape"
    | some _ =>
      if (← get).streaming then advance
      failHere source "control character (\\u0000-\\u001F) found while parsing a string"

/-- Skips the exponent of a number at its `e`. -/
def skipExponent (source : ByteArray) : ReadM Unit := do
  advance
  match ← peek source with
  | some 43 | some 45 => advance
  | _ => pure ()
  match ← next source with
  | some byte =>
    if isDigit byte then do let _ ← digits source
    else failHere source "invalid number"
  | none => failHere source "invalid number"

/-- Skips a number whose sign, if any, was consumed. -/
def skipNumber (source : ByteArray) : ReadM Unit := do
  match ← next source with
  | some 48 => if (← peek source).any isDigit then failAtNext source "invalid number"
  | some byte =>
    if isDigit byte then do let _ ← digits source
    else failHere source "invalid number"
  | none => failHere source "invalid number"
  match ← peek source with
  | some 46 =>
    advance
    if (← digits source).isEmpty then failAtNext source "invalid number"
    if (← peek source) == some 101 || (← peek source) == some 69 then skipExponent source
  | some 101 | some 69 => skipExponent source
  | _ => pure ()

mutual

/-- Skips a value; `fuel` bounds the work. -/
def skipValue (source : ByteArray) : Nat → ReadM Unit
  | 0 => failAtNext source "recursion limit exceeded"
  | fuel + 1 => do
    match ← skipBlanks source with
    | none => failAtNext source "EOF while parsing a value"
    | some 110 => do advance; keyword source [117, 108, 108]
    | some 116 => do advance; keyword source [114, 117, 101]
    | some 102 => do advance; keyword source [97, 108, 115, 101]
    | some 45 => do advance; skipNumber source
    | some 34 => do advance; skipString source (source.size + 1)
    | some 91 =>
      advance
      match ← skipBlanks source with
      | some 93 => advance
      | none => failAtNext source "EOF while parsing a list"
      | some _ => skipItems source fuel
    | some 123 =>
      advance
      match ← skipBlanks source with
      | some 125 => advance
      | none => failAtNext source "EOF while parsing an object"
      | some _ => skipMembers source fuel
    | some byte =>
      if isDigit byte then skipNumber source else failAtNext source "expected value"

/-- Skips the items of an array from its first item, and its closing bracket. -/
def skipItems (source : ByteArray) : Nat → ReadM Unit
  | 0 => failAtNext source "recursion limit exceeded"
  | fuel + 1 => do
    skipValue source fuel
    match ← skipBlanks source with
    | some 44 => do advance; skipItems source fuel
    | some 93 => advance
    | some _ => failAtNext source "expected `,` or `]`"
    | none => failAtNext source "EOF while parsing a list"

/-- Skips the members of an object from its first key, and its closing brace. -/
def skipMembers (source : ByteArray) : Nat → ReadM Unit
  | 0 => failAtNext source "recursion limit exceeded"
  | fuel + 1 => do
    match ← skipBlanks source with
    | some 34 => do advance; skipString source (source.size + 1)
    | some _ => failAtNext source "key must be a string"
    | none => failAtNext source "EOF while parsing an object"
    match ← skipBlanks source with
    | some 58 => advance
    | some _ => failAtNext source "expected `:`"
    | none => failAtNext source "EOF while parsing an object"
    skipValue source fuel
    match ← skipBlanks source with
    | some 44 => do advance; skipMembers source fuel
    | some 125 => advance
    | some _ => failAtNext source "expected `,` or `\x7d`"
    | none => failAtNext source "EOF while parsing an object"

end

/-- The description of a value found where another was expected. -/
def JsonNumber.unexpected : JsonNumber → String
  | .nat n => "integer `" ++ toString n ++ "`"
  | .negative i => "integer `" ++ toString i ++ "`"
  | .float f => "floating point `" ++ Double.render f ++ "`"

/-- The fault for a value of the wrong type, read at its first byte. -/
def invalidType {α : Type} (source : ByteArray) (expected : String) : ReadM α := do
  let found ← match ← peek source with
    | some 110 => do advance; keyword source [117, 108, 108]; pure "null"
    | some 116 => do advance; keyword source [114, 117, 101]; pure "boolean `true`"
    | some 102 => do advance; keyword source [97, 108, 115, 101]; pure "boolean `false`"
    | some 45 => do advance; pure (JsonNumber.unexpected (← number source true))
    | some byte =>
      if isDigit byte then do pure (JsonNumber.unexpected (← number source false))
      else if byte == 34 then do pure ("string " ++ Text.quote (← string source))
      else if byte == 91 then pure "sequence"
      else if byte == 123 then pure "map"
      else failAtNext source "expected value"
    | none => failAtNext source "expected value"
  failHere source ("invalid type: " ++ found ++ ", expected " ++ expected)

/-- The list `a`, `a or b`, `a, b, c` of names in backquotes. -/
def nameList (names : List String) : String :=
  match names with
  | [] => "there are no variants"
  | [one] => "expected `" ++ one ++ "`"
  | [one, two] => "expected `" ++ one ++ "` or `" ++ two ++ "`"
  | _ => "expected one of " ++ ", ".intercalate (names.map fun n => "`" ++ n ++ "`")

/-- The closing bracket of an array, after its items. -/
def closeArray (source : ByteArray) : ReadM Unit := do
  match ← skipBlanks source with
  | some 93 => advance
  | some 44 =>
    advance
    if (← skipBlanks source) == some 93 then failAtNext source "trailing comma"
    else failAtNext source "trailing characters"
  | some _ => failAtNext source "trailing characters"
  | none => failAtNext source "EOF while parsing a list"

/-- The closing brace of an object, after its members. -/
def closeObject (source : ByteArray) : ReadM Unit := do
  match ← skipBlanks source with
  | some 125 => advance
  | some 44 => failAtNext source "trailing comma"
  | some _ => failAtNext source "trailing characters"
  | none => failAtNext source "EOF while parsing an object"

/-- Moves to the next item of an array: `none` at its end, `some ()` before an item. -/
def nextItem (source : ByteArray) (first : Bool) : ReadM (Option Unit) := do
  let byte ← match ← skipBlanks source with
    | some 93 => return none
    | some 44 =>
      if first then failAtNext source "expected value"
      else do advance; skipBlanks source
    | some byte =>
      if first then pure (some byte) else failAtNext source "expected `,` or `]`"
    | none => failAtNext source "EOF while parsing a list"
  match byte with
  | some 93 => failAtNext source "trailing comma"
  | some _ => return some ()
  | none => failAtNext source "EOF while parsing a value"

/-- Moves to the next key of an object and reads it: `none` at its end. -/
def nextKey (source : ByteArray) (first : Bool) : ReadM (Option String) := do
  let byte ← match ← skipBlanks source with
    | some 125 => return none
    | some 44 =>
      if first then failAtNext source "key must be a string"
      else do advance; skipBlanks source
    | some byte =>
      if first then pure (some byte) else failAtNext source "expected `,` or `\x7d`"
    | none => failAtNext source "EOF while parsing an object"
  match byte with
  | some 34 => return some (← string source)
  | some 125 => failAtNext source "trailing comma"
  | some _ => failAtNext source "key must be a string"
  | none => failAtNext source "EOF while parsing a value"

/-- The colon after a key. -/
def colon (source : ByteArray) : ReadM Unit := do
  match ← skipBlanks source with
  | some 58 => advance
  | some _ => failAtNext source "expected `:`"
  | none => failAtNext source "EOF while parsing an object"

/-- The deepest nesting of arrays and objects the reader accepts. -/
def depthLimit : Nat := 128

/-- Enters an array or object at its opening byte. -/
def enter (source : ByteArray) (depth : Nat) : ReadM Unit := do
  if depth + 1 ≥ depthLimit then failAtNext source "recursion limit exceeded"
  advance

/-- Sets a member of a record being read, refusing a repeated field. -/
def setField (filled : List (String × Json)) (key : String) (value : Json) :
    Except JsonError (List (String × Json)) :=
  if filled.any (·.1 == key) then .error { description := "duplicate field `" ++ key ++ "`" }
  else .ok (filled ++ [(key, value)])

/-- The value of an absent field: its default, `null` for an optional field, or a fault. -/
def absentField (field : String × Schema × Option Json) : Except JsonError Json :=
  match field with
  | (_, _, some value) => .ok value
  | (_, .optional _, none) => .ok .null
  | (name, _, none) => .error { description := "missing field `" ++ name ++ "`" }

/-- A record with its fields in declaration order, absent ones filled in. -/
def completeRecord (fields : List (String × Schema × Option Json))
    (filled : List (String × Json)) : Except JsonError Json := do
  let members ← fields.mapM fun field =>
    match filled.find? (·.1 == field.1) with
    | some (_, value) => .ok (field.1, value)
    | none => do return (field.1, ← absentField field)
  return .object members

mutual

/-- Reads a value of `schema` at the current place; `fuel` bounds the work. A fault of a record
as a whole is placed after its closing brace, when one follows. -/
def value (source : ByteArray) (fuel depth : Nat) (schema : Schema) : ReadM Json :=
  match fuel with
  | 0 => failAtNext source "recursion limit exceeded"
  | fuel + 1 => do
    let byte ← skipBlanks source
    if byte.isNone then failAtNext source "EOF while parsing a value"
    match schema with
    | .any => anyValue source fuel depth
    | .u64 =>
      placed source <| match byte with
        | some 45 => do
          advance
          match ← number source true with
          | .negative i => failHere source ("invalid value: integer `" ++ toString i ++
              "`, expected u64")
          | other => failHere source ("invalid type: " ++ JsonNumber.unexpected other ++
              ", expected u64")
        | some b =>
          if isDigit b then do
            match ← number source false with
            | .nat n => return .nat n
            | other => failHere source ("invalid type: " ++ JsonNumber.unexpected other ++
                ", expected u64")
          else invalidType source "u64"
        | none => invalidType source "u64"
    | .bool =>
      placed source <| match byte with
        | some 116 => do advance; keyword source [114, 117, 101]; return .bool true
        | some 102 => do advance; keyword source [97, 108, 115, 101]; return .bool false
        | _ => invalidType source "a boolean"
    | .string =>
      placed source <| if byte == some 34 then do return .string (← string source)
        else invalidType source "a string"
    | .optional inner =>
      if byte == some 110 then do
        advance
        keyword source [117, 108, 108]
        return .null
      else value source fuel depth inner
    | .sequence item =>
      placed source <| if byte == some 91 then do
          enter source depth
          let result ← items source fuel (depth + 1) item true []
          closeArray source
          return .array result
        else invalidType source "a sequence"
    | .choice typeName names =>
      match byte with
      | some 34 => placed source do
        let name ← string source
        if names.contains name then return .string name
        else throw { description := "unknown variant `" ++ name ++ "`, " ++ nameList names }
      | some 123 => do
        enter source depth
        match ← nextKey source true with
        | none => failAtNext source "expected value"
        | some name =>
          if !names.contains name then
            failHere source ("unknown variant `" ++ name ++ "`, " ++ nameList names)
          colon source
          let _ ← placed source <| match ← skipBlanks source with
            | some 110 => do advance; keyword source [117, 108, 108]; pure ()
            | none => failAtNext source "EOF while parsing a value"
            | some _ => invalidType source "unit"
          match ← skipBlanks source with
          | some 125 => do advance; return .string name
          | some _ => failHere source "expected value"
          | none => failHere source "EOF while parsing an object"
      | _ => let _ := typeName; failAtNext source "expected value"
    | .record typeName fields =>
      placed source <| match byte with
        | some 123 => do
          enter source depth
          let filled ← tryCatch (members source fuel (depth + 1) fields true []) fun error => do
            if error.place.isNone then
              if (← skipBlanks source) == some 125 then advance
            throw error
          let result := completeRecord fields filled
          closeObject source
          match result with
          | .ok record => return record
          | .error error => throw error
        | some 91 => do
          enter source depth
          let result ← tryCatch (do
              let filled ← positional source fuel (depth + 1) typeName fields 0 []
              pure (Except.ok filled))
            fun error => pure (Except.error error)
          match result with
          | .ok filled =>
            closeArray source
            return .object filled
          | .error error =>
            if error.place.isNone then
              let _ ← tryCatch (closeArray source) fun _ => pure ()
            throw error
        | _ => invalidType source ("struct " ++ typeName)

/-- Reads any value at a byte that is not blank. -/
def anyValue (source : ByteArray) (fuel depth : Nat) : ReadM Json := do
  match ← peek source with
  | some 110 => do advance; keyword source [117, 108, 108]; return .null
  | some 116 => do advance; keyword source [114, 117, 101]; return .bool true
  | some 102 => do advance; keyword source [97, 108, 115, 101]; return .bool false
  | some 45 => do advance; return .number (← number source true)
  | some 34 => return .string (← string source)
  | some 91 => do
    enter source depth
    let result ← items source fuel (depth + 1) .any true []
    closeArray source
    return .array result
  | some 123 => do
    enter source depth
    let result ← anyMembers source fuel (depth + 1) true []
    closeObject source
    return .object result
  | some byte =>
    if isDigit byte then return .number (← number source false)
    else failAtNext source "expected value"
  | none => failAtNext source "EOF while parsing a value"

/-- Reads the items of an array up to its closing bracket, not consumed. -/
def items (source : ByteArray) (fuel depth : Nat) (item : Schema) (first : Bool)
    (acc : List Json) : ReadM (List Json) :=
  match fuel with
  | 0 => failAtNext source "recursion limit exceeded"
  | fuel + 1 => do
    match ← nextItem source first with
    | none => return acc
    | some () =>
      let element ← value source fuel depth item
      items source fuel depth item false (acc ++ [element])

/-- Reads the members of an object of any values up to its closing brace, not consumed; a
repeated key keeps its first place and takes the last value. -/
def anyMembers (source : ByteArray) (fuel depth : Nat) (first : Bool)
    (acc : List (String × Json)) : ReadM (List (String × Json)) :=
  match fuel with
  | 0 => failAtNext source "recursion limit exceeded"
  | fuel + 1 => do
    match ← nextKey source first with
    | none => return acc
    | some key =>
      colon source
      let member ← value source fuel depth .any
      anyMembers source fuel depth false (Json.setMember acc key member)

/-- Reads the members of a record up to its closing brace, not consumed. The values of unknown
keys are skipped. -/
def members (source : ByteArray) (fuel depth : Nat) (fields : List (String × Schema × Option Json))
    (first : Bool) (acc : List (String × Json)) : ReadM (List (String × Json)) :=
  match fuel with
  | 0 => failAtNext source "recursion limit exceeded"
  | fuel + 1 => do
    match ← nextKey source first with
    | none => return acc
    | some key =>
      match fields.find? (·.1 == key) with
      | some (_, schema, _) =>
        if acc.any (·.1 == key) then
          throw { description := "duplicate field `" ++ key ++ "`" }
        colon source
        let member ← value source fuel depth schema
        members source fuel depth fields false (acc ++ [(key, member)])
      | none =>
        colon source
        skipValue source fuel
        members source fuel depth fields false acc

/-- Reads the fields of a record written as an array, in declaration order. -/
def positional (source : ByteArray) (fuel depth : Nat) (typeName : String)
    (fields : List (String × Schema × Option Json)) (index : Nat)
    (acc : List (String × Json)) : ReadM (List (String × Json)) :=
  match fuel, fields with
  | 0, _ => failAtNext source "recursion limit exceeded"
  | _, [] => return acc
  | fuel + 1, field :: rest => do
    match ← nextItem source (index == 0) with
    | some () =>
      let member ← value source fuel depth field.2.1
      positional source fuel depth typeName rest (index + 1) (acc ++ [(field.1, member)])
    | none =>
      match field.2.2 with
      | some default =>
        positional source fuel depth typeName rest (index + 1) (acc ++ [(field.1, default)])
      | none =>
        throw { description := "invalid length " ++ toString index ++ ", expected struct " ++
          typeName ++ " with " ++ toString (index + rest.length + 1) ++ " elements" }

end

/-- Reads a whole text as a value of `schema`; only blanks may follow it. -/
def document (source : ByteArray) (schema : Schema) : ReadM Json := do
  let result ← value source (4 * source.size + 8) 0 schema
  if (← skipBlanks source).isSome then failAtNext source "trailing characters"
  return result

end JsonRead

namespace Json

/-- The error text for a name that is none of `names`. -/
def unknownVariant (name : String) (names : List String) : String :=
  "unknown variant `" ++ name ++ "`, " ++ JsonRead.nameList names

/-- What a value is, as a fault about its type names it. -/
def unexpected : Json → String
  | .null => "null"
  | .bool b => "boolean `" ++ (if b then "true" else "false") ++ "`"
  | .number n => JsonRead.JsonNumber.unexpected n
  | .string s => "string " ++ Text.quote s
  | .array _ => "sequence"
  | .object _ => "map"

/-- One of `names` from a value read already: a string naming it, or an object whose only key
names it, with `null` as its value. -/
def choiceOf (names : List String) : Json → Except String String
  | .string name => if names.contains name then .ok name else .error (unknownVariant name names)
  | .object [(name, inner)] =>
    if !names.contains name then .error (unknownVariant name names)
    else
      match inner with
      | .null => .ok name
      | other => .error ("invalid type: " ++ other.unexpected ++ ", expected unit")
  | .object _ => .error "invalid value: map, expected map with a single key"
  | other => .error ("invalid type: " ++ other.unexpected ++ ", expected string or map")

/-- The value of a text read against a schema, or the first fault in it. -/
def readAs (text : String) (schema : Schema) : Except JsonError Json :=
  (Id.run ((JsonRead.document text.toUTF8 schema).run.run { index := 0 })).1

/-- The value of a text read as a stream against a schema, or the first fault in it. A stream
places a fault after the byte it last looked at. -/
def readStreamAs (text : String) (schema : Schema) : Except JsonError Json :=
  (Id.run ((JsonRead.document text.toUTF8 schema).run.run { index := 0, streaming := true })).1

/-- The value of a JSON text, or the first fault in it. -/
def parse (text : String) : Except JsonError Json :=
  readAs text .any

end Json

end NftProbe
