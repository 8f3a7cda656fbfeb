import NftProbe.Idna.Mapping
import NftProbe.Idna.Punycode
import NftProbe.Idna.Joiners
import NftProbe.Idna.BidiRule
import NftProbe.Text.Normalization
import NftProbe.Text.Marks

/-!
# Domain names in ASCII

`toAscii?` writes a domain name in ASCII as URLs need it: the processing of Unicode Technical
Standard 46 without the transitional mappings, with the joiner and bidirectional rules, and
without the checks of hyphens and lengths.

1. Each character is mapped by the table; a disallowed character fails.
2. The result is put in Normalization Form C.
3. An ASCII character that the caller refuses fails (for URLs: controls, space, and the
   characters that delimit the parts of a URL).
4. The name is split into labels at `.`.
5. A label that starts with `xn--` must be ASCII and decode to a label that is neither empty
   nor ASCII only, that is in Normalization Form C, and that does not itself start with
   `xn--`. The decoded label is the one checked, and the label is written as it was.
6. A label must not begin with a mark, must hold only valid characters, and must hold its
   joiners only where the joiner rules allow them.
7. When the name is bidirectional, every label must satisfy the rule for bidirectional names.
8. A label that is not ASCII is written `xn--` and its encoding.

A name that comes out empty fails.
-/

set_option autoImplicit false

namespace NftProbe.Idna

/-- A label read: the code points the checks look at, and the label in ASCII. -/
structure Label where
  points : List Nat
  written : String

/-- The prefix of encoded labels, `xn--`. -/
def encodedPrefix : List Nat := [0x78, 0x6E, 0x2D, 0x2D]

/-- The full stop that separates labels. -/
def labelSeparator : Nat := 0x2E

/-- The code points a code point maps to; `none` when it is disallowed. -/
def mapPoint (point : Nat) : Option (List Nat) :=
  match status point with
  | .valid => some [point]
  | .mapped replacement => some replacement
  | .ignored => some []
  | .disallowed => none

/-- The text of code points below 128. -/
def asciiText (points : List Nat) : String :=
  String.ofList (points.map Char.ofNat)

/-- Whether a label passes the checks that every label must pass: no mark first, only valid
characters, and joiners only where the rules allow them. -/
def labelValid (label : List Nat) : Bool :=
  (match label with
    | [] => true
    | first :: _ => !Text.isMark first) &&
    label.all (fun point => status point == .valid) &&
    joinersAllowed label

/-- Reads one label of a mapped and normalised name. -/
def readLabel? (label : List Nat) : Option Label :=
  if label.take 4 == encodedPrefix then do
    let encoded := label.drop 4
    if encoded.any (0x80 ≤ ·) then none
    let decoded ← Punycode.decode? encoded
    if decoded.isEmpty || decoded.all (· < 0x80) then none
    if Text.nfc decoded != decoded then none
    if decoded.take 4 == encodedPrefix then none
    if !labelValid decoded then none
    pure { points := decoded, written := asciiText label }
  else if !labelValid label then none
  else if label.all (· < 0x80) then some { points := label, written := asciiText label }
  else some { points := label, written := "xn--" ++ Punycode.encode label }

/-- A domain name in ASCII, refusing the ASCII characters `denied`; `none` when it has no ASCII
form. -/
def toAscii? (denied : Char → Bool) (domain : List Char) : Option String := do
  let mapped := (← domain.mapM fun c => mapPoint c.toNat).flatten
  let normal := Text.nfc mapped
  if normal.any fun point => point < 0x80 && denied (Char.ofNat point) then none
  let labels ← (normal.splitOn labelSeparator).mapM readLabel?
  if isBidiDomain (labels.map (·.points)) &&
      !labels.all (fun label => satisfiesBidiRule label.points) then none
  let result := ".".intercalate (labels.map (·.written))
  if result.isEmpty then none else some result

end NftProbe.Idna
