import NftProbe.Text.Quoted
import NftProbe.Json.Double

/-!
# JSON values

`Json` is a JSON document with its object members in insertion order. Numbers keep the three
kinds a reader distinguishes: non-negative integers, negative integers and floating point.

`Json.compact` writes a value on one line without blanks; `Json.pretty` writes it with two
spaces of indentation per level, one member or item per line, and `[]` and `{}` for empty
containers. In both, a string escapes the quote, the backslash and the control characters
(`\b`, `\t`, `\n`, `\f`, `\r`, and `\u00xx` for the others) and writes everything else as is.
-/

set_option autoImplicit false

namespace NftProbe

/-- A JSON number. -/
inductive JsonNumber
  | nat (value : Nat)
  | negative (value : Int)
  | float (value : Float)
deriving Repr

/-- A JSON value; object members keep their order. -/
inductive Json
  | null
  | bool (value : Bool)
  | number (value : JsonNumber)
  | string (value : String)
  | array (items : List Json)
  | object (members : List (String × Json))
deriving Repr

/-- The text of a number. -/
def JsonNumber.render : JsonNumber → String
  | .nat n => toString n
  | .negative i => toString i
  | .float f => Double.render f

namespace Json

instance : Inhabited Json := ⟨.null⟩

/-- A non-negative integer. -/
def nat (n : Nat) : Json := .number (.nat n)

/-- An optional value, `null` when absent. -/
def optional {α : Type} (toJson : α → Json) : Option α → Json
  | some a => toJson a
  | none => .null

/-- The escape of one character inside a JSON string. -/
def escapeChar (c : Char) : String :=
  if c = '"' then "\\\""
  else if c = '\\' then "\\\\"
  else if c = '\x08' then "\\b"
  else if c = '\t' then "\\t"
  else if c = '\n' then "\\n"
  else if c = '\x0c' then "\\f"
  else if c = '\r' then "\\r"
  else if c.toNat < 0x20 then
    "\\u00" ++ String.ofList [lowerDigit (c.toNat / 16), lowerDigit (c.toNat % 16)]
  else c.toString
where
  lowerDigit (value : Nat) : Char :=
    if value < 10 then Char.ofNat (48 + value) else Char.ofNat (87 + value)

/-- A string literal. -/
def quote (s : String) : String :=
  "\"" ++ String.join (s.toList.map escapeChar) ++ "\""

mutual

/-- The one-line text of a value. -/
def compact : Json → String
  | .null => "null"
  | .bool b => if b then "true" else "false"
  | .number n => n.render
  | .string s => quote s
  | .array items => "[" ++ compactItems items ++ "]"
  | .object members => "\x7b" ++ compactMembers members ++ "\x7d"

/-- The items of an array, comma separated. -/
def compactItems : List Json → String
  | [] => ""
  | [item] => compact item
  | item :: rest => compact item ++ "," ++ compactItems rest

/-- The members of an object, comma separated. -/
def compactMembers : List (String × Json) → String
  | [] => ""
  | [(key, value)] => quote key ++ ":" ++ compact value
  | (key, value) :: rest => quote key ++ ":" ++ compact value ++ "," ++ compactMembers rest

end

/-- `n` spaces. -/
def spaces (n : Nat) : String :=
  String.ofList (List.replicate n ' ')

mutual

/-- The indented text of a value whose first line stands at indentation `indent`. -/
def prettyAt (indent : Nat) : Json → String
  | .array [] => "[]"
  | .array items => "[\n" ++ prettyItems (indent + 2) items ++ "\n" ++ spaces indent ++ "]"
  | .object [] => "\x7b\x7d"
  | .object members =>
    "\x7b\n" ++ prettyMembers (indent + 2) members ++ "\n" ++ spaces indent ++ "\x7d"
  | other => compact other

/-- Array items, one per line at indentation `indent`. -/
def prettyItems (indent : Nat) : List Json → String
  | [] => ""
  | [item] => spaces indent ++ prettyAt indent item
  | item :: rest => spaces indent ++ prettyAt indent item ++ ",\n" ++ prettyItems indent rest

/-- Object members, one per line at indentation `indent`. -/
def prettyMembers (indent : Nat) : List (String × Json) → String
  | [] => ""
  | [(key, value)] => spaces indent ++ quote key ++ ": " ++ prettyAt indent value
  | (key, value) :: rest =>
    spaces indent ++ quote key ++ ": " ++ prettyAt indent value ++ ",\n" ++
      prettyMembers indent rest

end

/-- The indented text of a value. -/
def pretty (value : Json) : String :=
  prettyAt 0 value

/-- The value of a member of an object, the last one with that key; `null` otherwise. -/
def field (value : Json) (key : String) : Json :=
  match value with
  | .object members => ((members.filter (·.1 == key)).getLast?.map (·.2)).getD .null
  | _ => .null

/-- An object with a member set: replaced in place when the key is present, appended
otherwise. -/
def setMember (members : List (String × Json)) (key : String) (value : Json) :
    List (String × Json) :=
  if members.any (·.1 == key) then
    members.map fun member => if member.1 == key then (key, value) else member
  else members ++ [(key, value)]

end Json

end NftProbe
