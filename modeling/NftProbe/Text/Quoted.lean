import NftProbe.Text.Printable
import NftProbe.Text.GraphemeExtend

/-!
# Quoted text

The quoted form of a string or a character, as the program writes it in messages and logs.
A string is written between double quotes and a character between single quotes. Inside,
NUL, tab, carriage return, line feed and the backslash are written as `\0`, `\t`, `\r`,
`\n`, `\\`; the delimiter of the form is escaped with a backslash, and the other quote is
not. Grapheme extenders and characters that are not printable are written `\u{…}` with the
code point in lowercase hexadecimal; every other character is written as itself.
-/

set_option autoImplicit false

namespace NftProbe.Text

/-- Lowercase hexadecimal digits of a number, without leading zeros (`0` for zero). -/
def hexDigits (n : Nat) : String :=
  String.ofList (Nat.toDigits 16 n)

/-- The escape `\u{…}` of a code point. -/
def unicodeEscape (c : Char) : String :=
  "\\u\x7b" ++ hexDigits c.toNat ++ "\x7d"

/-- Which quote delimits the form, and so is escaped inside it. -/
inductive Delimiter
  | double
  | single
deriving DecidableEq

/-- The written form of one character inside a form delimited by `delimiter`. -/
def escapeChar (delimiter : Delimiter) (c : Char) : String :=
  if c = '\x00' then "\\0"
  else if c = '\t' then "\\t"
  else if c = '\r' then "\\r"
  else if c = '\n' then "\\n"
  else if c = '\\' then "\\\\"
  else if c = '"' ∧ delimiter = .double then "\\\""
  else if c = '\'' ∧ delimiter = .single then "\\'"
  else if isGraphemeExtend c then unicodeEscape c
  else if isPrintable c then c.toString
  else unicodeEscape c

/-- A string between double quotes, each character escaped as needed. -/
def quote (s : String) : String :=
  "\"" ++ String.join (s.toList.map (escapeChar .double)) ++ "\""

/-- A character between single quotes, escaped as needed. -/
def quoteChar (c : Char) : String :=
  "'" ++ escapeChar .single c ++ "'"

end NftProbe.Text
