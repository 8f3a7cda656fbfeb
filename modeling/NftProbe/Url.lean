import NftProbe.Idna.ToAscii

/-!
# URLs

A URL as an HTTP client reads it, by the rules of the URL standard: the text is cut into
scheme, host, port, path, query and fragment, and each part is brought into its normal form.
`Url.parse?` reads a text, `Url.render` writes the normal form back.

The parts, for the schemes the standard knows (`http`, `https`, `ws`, `wss`, `ftp`, `file`):

* blanks and control characters around the text are dropped, and tabs and line breaks anywhere
  in it; the scheme is written in lower case;
* the slashes after the scheme may be any number of `/` and `\`; user name and password, before
  the last `@` of the authority, are dropped;
* the host is percent-decoded and written in ASCII as a domain name (`Idna.toAscii?`: mapped,
  normalised, checked, with `xn--` labels for labels that are not ASCII), and then read as an
  IPv4 address in any of its forms (`127.1`, `0x7f.0.0.1`, `2130706433`, a trailing dot) when
  it ends in a number; or it is an IPv6 address in brackets, written in its shortest form;
* a port is decimal digits up to 65535, leading zeros allowed, and the scheme's default port is
  dropped;
* the path is split at `/` and `\`, `.` and `..` segments are resolved, and an empty path is
  `/`; spaces, quotes, angle brackets and characters beyond ASCII are percent-encoded in the
  path, the query and the fragment, each part with its own set.

A `..` never removes a segment that is a drive letter (`C:` or `c|`), whatever the scheme. A
`file` URL has no user name, password or port; `localhost` and an empty host stand for no host;
a drive letter after its slashes starts the path; a first segment such as `C:x` is split into
`C:` and `x`; and empty first segments are dropped.

For another scheme the host is kept as written and the path only loses its control characters.
A text that is no absolute URL, an empty host, a bad port or a bad address has no normal form.
-/

set_option autoImplicit false

namespace NftProbe.Url

/-! ## Percent-encoding -/

/-- The hex digit of a value below 16, in upper case. -/
def hexDigitUpper (n : Nat) : Char :=
  if n < 10 then Char.ofNat (48 + n) else Char.ofNat (55 + n)

/-- A byte as `%XX`. -/
def percentByte (b : UInt8) : String :=
  String.ofList ['%', hexDigitUpper (b.toNat / 16), hexDigitUpper (b.toNat % 16)]

/-- The sets of characters that a part of a URL percent-encodes, beyond the control characters
and everything outside ASCII, which every set encodes. -/
inductive EncodeSet
  /-- Control characters only: opaque paths and hosts. -/
  | controls
  /-- The fragment: also space, `"`, `<`, `>` and the backquote. -/
  | fragment
  /-- The query: also space, `"`, `#`, `<` and `>`. -/
  | query
  /-- The query of a scheme the standard knows: also the apostrophe. -/
  | specialQuery
  /-- The path: the fragment's set and `#`, `?`, `{` and `}`. -/
  | path

/-- The ASCII characters of a set besides the control characters. -/
def EncodeSet.extra : EncodeSet → List Char
  | .controls => []
  | .fragment => [' ', '"', '<', '>', '`']
  | .query => [' ', '"', '#', '<', '>']
  | .specialQuery => [' ', '"', '#', '<', '>', '\'']
  | .path => [' ', '"', '<', '>', '`', '#', '?', '{', '}']

/-- Whether a set encodes a character. -/
def EncodeSet.encodes (set : EncodeSet) (c : Char) : Bool :=
  c.toNat < 32 || c.toNat ≥ 127 || set.extra.contains c

/-- A character, percent-encoded byte by byte when the set encodes it. -/
def encodeChar (set : EncodeSet) (c : Char) : String :=
  if set.encodes c then String.join (c.toString.toUTF8.toList.map percentByte)
  else c.toString

/-- A text with the characters of a set percent-encoded. -/
def encode (set : EncodeSet) (text : List Char) : String :=
  String.join (text.map (encodeChar set))

/-- The value of a hex digit. -/
def hexValue? (c : Char) : Option Nat :=
  if '0' ≤ c && c ≤ '9' then some (c.toNat - 48)
  else if 'a' ≤ c && c ≤ 'f' then some (c.toNat - 87)
  else if 'A' ≤ c && c ≤ 'F' then some (c.toNat - 55)
  else none

/-- The bytes of a text with each `%XX` of two hex digits replaced by the byte it stands for. -/
def percentDecode : List UInt8 → List UInt8
  | [] => []
  | 37 :: h :: l :: rest =>
    match hexValue? (Char.ofNat h.toNat), hexValue? (Char.ofNat l.toNat) with
    | some high, some low => (16 * high + low).toUInt8 :: percentDecode rest
    | _, _ => 37 :: percentDecode (h :: l :: rest)
  | b :: rest => b :: percentDecode rest

/-! ## Hosts -/

/-- A host. -/
inductive Host
  /-- A domain name, in ASCII and lower case. -/
  | domain (name : String)
  /-- An IPv4 address as a 32-bit number. -/
  | ipv4 (address : Nat)
  /-- An IPv6 address as its eight 16-bit pieces. -/
  | ipv6 (pieces : List Nat)
  /-- The host of a scheme the standard does not know, kept as written but for its control
  characters, which are percent-encoded. -/
  | verbatim (text : String)

/-- The digits of a number in base 16, in lower case, without leading zeros. -/
def hexText (n : Nat) : String :=
  String.ofList (Nat.toDigits 16 n)

/-- The first longest run of at least two zero pieces: its start and length. -/
def longestZeroRun (pieces : List Nat) : Option (Nat × Nat) :=
  let (best, _) := pieces.zipIdx.foldl
    (fun (best, current) (piece, index) =>
      if piece != 0 then (best, none)
      else
        let current := match current with
          | some (start, length) => (start, length + 1)
          | none => (index, 1)
        let best := match best with
          | some (_, bestLength) => if current.2 > bestLength then some current else best
          | none => some current
        (best, some current))
    ((none : Option (Nat × Nat)), (none : Option (Nat × Nat)))
  best.filter fun (_, length) => length ≥ 2

/-- An IPv6 address in its shortest form: pieces in hex, the first longest run of zero pieces
written `::`. -/
def renderIpv6 (pieces : List Nat) : String :=
  match longestZeroRun pieces with
  | none => ":".intercalate (pieces.map hexText)
  | some (start, length) =>
    ":".intercalate ((pieces.take start).map hexText) ++ "::" ++
      ":".intercalate ((pieces.drop (start + length)).map hexText)

/-- The text of a host. -/
def Host.render : Host → String
  | .domain name => name
  | .ipv4 address =>
    ".".intercalate ([3, 2, 1, 0].map fun k => toString (address / Nat.pow 256 k % 256))
  | .ipv6 pieces => "[" ++ renderIpv6 pieces ++ "]"
  | .verbatim text => text

/-- Reads digits in a base; `none` when a character is no digit of it. -/
def digitsIn (base : Nat) (text : List Char) : Option Nat :=
  text.foldlM (fun acc c => (hexValue? c).bind fun d =>
    if d < base then some (base * acc + d) else none) 0

/-- A part of an IPv4 address: decimal, octal after a leading `0`, hex after `0x`; an empty
text after the prefix is zero. -/
def ipv4Number? (part : List Char) : Option Nat :=
  match part with
  | [] => none
  | '0' :: 'x' :: rest | '0' :: 'X' :: rest => digitsIn 16 rest
  | '0' :: rest@(_ :: _) => digitsIn 8 rest
  | _ => digitsIn 10 part

/-- The dot-separated parts of a host, without one empty last part after a trailing dot. -/
def ipv4Parts (host : List Char) : List (List Char) :=
  let parts := host.splitOn '.'
  match parts.getLast? with
  | some [] => if parts.length > 1 then parts.dropLast else parts
  | _ => parts

/-- Whether a host ends in a number, and so must be an IPv4 address. -/
def endsInNumber (host : List Char) : Bool :=
  match (ipv4Parts host).getLast? with
  | some last =>
    (!last.isEmpty && last.all Char.isDigit) || (ipv4Number? last).isSome
  | none => false

/-- An IPv4 address from its parts: at most four, every part but the last below 256, and the
last filling the bytes that are left. -/
def parseIpv4? (host : List Char) : Option Nat := do
  let parts := ipv4Parts host
  if parts.length > 4 then none
  let numbers ← parts.mapM ipv4Number?
  let leading := numbers.dropLast
  let last ← numbers.getLast?
  if leading.any (· > 255) then none
  if last ≥ Nat.pow 256 (5 - numbers.length) then none
  return leading.zipIdx.foldl (fun acc (n, i) => acc + n * Nat.pow 256 (3 - i)) last

/-- A dotted IPv4 address inside an IPv6 address: four decimal numbers below 256, without
leading zeros; its two pieces. -/
def embeddedIpv4? (text : List Char) : Option (List Nat) := do
  let parts := text.splitOn '.'
  if parts.length != 4 then none
  let numbers ← parts.mapM fun part =>
    match part with
    | [] => none
    | '0' :: _ :: _ => none
    | _ => digitsIn 10 part
  if numbers.any (· > 255) then none
  match numbers with
  | [a, b, c, d] => some [256 * a + b, 256 * c + d]
  | _ => none

/-- The pieces of one side of `::`: hex pieces of one to four digits separated by `:`, the last
one perhaps a dotted IPv4 address when `lastMayBeIpv4`. -/
def ipv6Pieces? (text : List Char) (lastMayBeIpv4 : Bool) : Option (List Nat) :=
  if text.isEmpty then some []
  else
    let groups := text.splitOn ':'
    let hexPiece (group : List Char) : Option Nat :=
      if group.isEmpty || group.length > 4 then none else digitsIn 16 group
    match groups.getLast? with
    | none => some []
    | some last =>
      let init := groups.dropLast
      if lastMayBeIpv4 && last.contains '.' then do
        let front ← init.mapM hexPiece
        let tail ← embeddedIpv4? last
        return front ++ tail
      else groups.mapM hexPiece

/-- Splits a text at its first `::`. -/
def splitCompression : List Char → Option (List Char × List Char)
  | [] => none
  | ':' :: ':' :: rest => some ([], rest)
  | c :: rest => (splitCompression rest).map fun (before, after) => (c :: before, after)

/-- An IPv6 address: eight pieces, or fewer with one `::` standing for at least one zero
piece. -/
def parseIpv6? (text : List Char) : Option (List Nat) :=
  match splitCompression text with
  | none => do
    let pieces ← ipv6Pieces? text true
    if pieces.length == 8 then some pieces else none
  | some (before, after) => do
    if (splitCompression after).isSome then none
    let front ← ipv6Pieces? before false
    let back ← ipv6Pieces? after true
    if front.length + back.length > 7 then none
    return front ++ List.replicate (8 - front.length - back.length) 0 ++ back

/-- Characters no host may hold. -/
def forbiddenInHost (c : Char) : Bool :=
  [(0 : Nat), 9, 10, 13, 32].contains c.toNat ||
    ['#', '/', ':', '<', '>', '?', '@', '[', '\\', ']', '^', '|'].contains c

/-- Characters no domain may hold: those no host may hold, control characters, `%` and
delete. -/
def forbiddenInDomain (c : Char) : Bool :=
  forbiddenInHost c || c.toNat < 32 || c == '%' || c.toNat == 127

/-- The host of a scheme the standard knows. -/
def parseSpecialHost? (text : List Char) : Option Host :=
  match text with
  | '[' :: rest =>
    if rest.getLast? == some ']' then (parseIpv6? rest.dropLast).map Host.ipv6 else none
  | _ => do
    let bytes := percentDecode (String.ofList text).toUTF8.toList
    let decoded ← String.fromUTF8? (ByteArray.mk bytes.toArray)
    let ascii := (← Idna.toAscii? forbiddenInDomain decoded.toList).toList
    if endsInNumber ascii then (parseIpv4? ascii).map Host.ipv4
    else some (.domain (String.ofList ascii))

/-- The host of another scheme: kept as written, control characters encoded. -/
def parseOpaqueHost? (text : List Char) : Option Host :=
  match text with
  | '[' :: rest =>
    if rest.getLast? == some ']' then (parseIpv6? rest.dropLast).map Host.ipv6 else none
  | _ =>
    if text.any fun c => forbiddenInHost c && c != '%' then none
    else some (.verbatim (encode .controls text))

/-! ## URLs -/

/-- The schemes the standard knows, with their default ports. -/
def specialSchemes : List (String × Option Nat) :=
  [("http", some 80), ("https", some 443), ("ws", some 80), ("wss", some 443),
    ("ftp", some 21), ("file", none)]

end NftProbe.Url

namespace NftProbe

/-- A URL in normal form. -/
structure Url where
  scheme : String
  /-- The host, when the URL has an authority. -/
  host : Option Url.Host
  /-- The port, unless it is absent or the scheme's default. -/
  port : Option Nat := none
  /-- The path: segments after `/`, or the opaque text of a URL without one. -/
  path : Sum (List String) String
  query : Option String := none
  fragment : Option String := none

namespace Url

/-- Whether a scheme is one the standard knows. -/
def isSpecial (scheme : String) : Bool :=
  (specialSchemes.lookup scheme).isSome

/-- A path segment that stands for the segment itself: `.` or `%2e`. -/
def isSingleDot (segment : List Char) : Bool :=
  match segment.map Char.toLower with
  | ['.'] | ['%', '2', 'e'] => true
  | _ => false

/-- A path segment that stands for the parent: `..` with either dot perhaps written `%2e`. -/
def isDoubleDot (segment : List Char) : Bool :=
  match segment.map Char.toLower with
  | ['.', '.'] | ['.', '%', '2', 'e'] | ['%', '2', 'e', '.'] | ['%', '2', 'e', '%', '2', 'e'] =>
    true
  | _ => false

/-- Whether a path segment is a drive letter: an ASCII letter, then `:` or `|`. -/
def isDriveLetter (segment : List Char) : Bool :=
  match segment with
  | [letter, mark] => letter.isAlpha && (mark == ':' || mark == '|')
  | _ => false

/-- The segments read so far, after one more segment; `isLast` when no separator follows it.
A `..` removes the segment before it, except a drive letter, which stays in any scheme; `.` is
dropped. When nothing follows a `.` or `..`, an empty segment is left, so the path ends in
`/`. -/
def pushSegment (acc : List String) (segment : List Char) (isLast : Bool) : List String :=
  if isDoubleDot segment then
    let acc := if acc.getLast?.any (isDriveLetter ·.toList) then acc else acc.dropLast
    if isLast then acc ++ [""] else acc
  else if isSingleDot segment then
    if isLast then acc ++ [""] else acc
  else acc ++ [encode .path segment]

/-- Resolves path segments in order. In a file URL, a first segment that starts with a letter
and `:` and goes on is split after the `:`, so that the drive letter stands alone. -/
def resolveSegments (file : Bool) : List (List Char) → List String → List String
  | [], acc => acc
  | segment :: rest, acc =>
    let isLast := rest.isEmpty
    let acc := match file, acc, segment with
      | true, [], letter :: ':' :: more@(_ :: _) =>
        if letter.isAlpha then pushSegment [String.ofList [letter, ':']] more isLast
        else pushSegment [] segment isLast
      | _, _, _ => pushSegment acc segment isLast
    if isLast then acc else resolveSegments file rest acc

/-- Drops empty first segments while another segment follows. -/
def dropLeadingEmpty : List String → List String
  | "" :: rest@(_ :: _) => dropLeadingEmpty rest
  | path => path

/-- The path of a URL from its segments: resolved in order and, in a file URL, without empty
first segments. -/
def resolvePath (file : Bool) (segments : List (List Char)) : List String :=
  let path := resolveSegments file segments []
  if file then dropLeadingEmpty path else path

/-- Splits the text after the authority into path, query and fragment. -/
def splitTail (text : List Char) : List Char × Option (List Char) × Option (List Char) :=
  let beforeFragment := text.takeWhile (· != '#')
  let fragment := if text.contains '#' then some ((text.dropWhile (· != '#')).drop 1) else none
  let path := beforeFragment.takeWhile (· != '?')
  let query :=
    if beforeFragment.contains '?' then some ((beforeFragment.dropWhile (· != '?')).drop 1)
    else none
  (path, query, fragment)

/-- The segments of a path that starts at a separator or at its first segment. -/
def pathSegments (special : Bool) (path : List Char) : List (List Char) :=
  let separator (c : Char) : Bool := c == '/' || (special && c == '\\')
  let path := match path with
    | c :: rest => if separator c then rest else path
    | [] => []
  (path.splitOnP separator)

/-- Reads the port text after a host: digits up to 65535; the scheme's default is dropped. -/
def parsePort? (scheme : String) (text : List Char) : Option (Option Nat) :=
  if text.isEmpty then some none
  else if !text.all Char.isDigit then none
  else
    let port := digitsIn 10 text |>.getD 0
    if port > 65535 then none
    else if (specialSchemes.lookup scheme).join == some port then some none
    else some (some port)

/-- Splits an authority into host text and port text, at the first `:` outside brackets. -/
def splitHostPort : List Char → Bool → List Char × Option (List Char)
  | [], _ => ([], none)
  | c :: rest, inBrackets =>
    if c == ':' && !inBrackets then ([], some rest)
    else
      let inBrackets := if c == '[' then true else if c == ']' then false else inBrackets
      let (host, port) := splitHostPort rest inBrackets
      (c :: host, port)

/-- The authority, host and port of a URL, after the slashes. A file URL has a host only, with no
user name, password or port; otherwise the user name and password stand before the last `@`. -/
def parseAuthority? (scheme : String) (authority : List Char) :
    Option (Option Host × Option Nat) := do
  let special := isSpecial scheme
  if scheme == "file" then
    if authority.isEmpty then return (none, none)
    let host ← parseSpecialHost? authority
    match host with
    | .domain "localhost" => return (none, none)
    | host => return (some host, none)
  let hostPort := if authority.contains '@' then
      (authority.reverse.takeWhile (· != '@')).reverse
    else authority
  if authority.contains '@' && hostPort.isEmpty then none
  let (hostText, portText) := splitHostPort hostPort false
  if special && hostText.isEmpty then none
  let host ← if special then parseSpecialHost? hostText else parseOpaqueHost? hostText
  let port ← parsePort? scheme (portText.getD [])
  return (some host, port)

/-- Whether a character may continue a scheme. -/
def schemeChar (c : Char) : Bool :=
  c.isAlphanum || c == '+' || c == '-' || c == '.'

/-- Drops blanks and control characters around a text and tabs and line breaks inside it. -/
def clean (text : String) : List Char :=
  let blank (c : Char) : Bool := c.toNat ≤ 32
  let chars := ((text.toList.dropWhile blank).reverse.dropWhile blank).reverse
  chars.filter fun c => c != '\t' && c != '\n' && c != '\r'

/-- Reads an absolute URL into its normal form; `none` when it has none. A drive letter after
the slashes of a file URL starts its path. -/
def parse? (text : String) : Option Url := do
  let chars := clean text
  let first ← chars.head?
  if !first.isAlpha then none
  let schemeText := chars.takeWhile schemeChar
  let rest := chars.drop schemeText.length
  let rest ← match rest with
    | ':' :: rest => some rest
    | _ => none
  let scheme := String.ofList (schemeText.map Char.toLower)
  let special := isSpecial scheme
  let slash (c : Char) : Bool := c == '/' || (special && c == '\\')
  let authorityEnd (c : Char) : Bool := slash c || c == '?' || c == '#'
  if special && scheme != "file" then
    let afterSlashes := rest.dropWhile slash
    let authority := afterSlashes.takeWhile (!authorityEnd ·)
    let (host, port) ← parseAuthority? scheme authority
    let (path, query, fragment) := splitTail (afterSlashes.drop authority.length)
    return { scheme, host, port, path := .inl (resolvePath false (pathSegments true path)),
             query := query.map (encode .specialQuery), fragment := fragment.map (encode .fragment) }
  else
    match rest with
    | a :: b :: afterSlashes =>
      if slash a && slash b then
        let authority := afterSlashes.takeWhile (!authorityEnd ·)
        if scheme == "file" && isDriveLetter authority then
          withoutAuthority scheme special afterSlashes
        else do
          let (host, port) ← parseAuthority? scheme authority
          let (path, query, fragment) := splitTail (afterSlashes.drop authority.length)
          let segments := if path.isEmpty && !special then [] else pathSegments special path
          return { scheme,
                   host := if scheme == "file" then host.orElse fun _ => some (.verbatim "")
                     else host,
                   port, path := .inl (resolvePath (scheme == "file") segments),
                   query := query.map (encode (if special then .specialQuery else .query)),
                   fragment := fragment.map (encode .fragment) }
      else withoutAuthority scheme special rest
    | _ => withoutAuthority scheme special rest
where
  /-- A URL with no authority: a path from `/`, or an opaque path. -/
  withoutAuthority (scheme : String) (special : Bool) (rest : List Char) : Option Url :=
    let (path, query, fragment) := splitTail rest
    let query := query.map (encode (if special then .specialQuery else .query))
    let fragment := fragment.map (encode .fragment)
    match path with
    | c :: _ =>
      if c == '/' || (special && c == '\\') || special then
        some { scheme, host := if scheme == "file" then some (.verbatim "") else none,
               path := .inl (resolvePath (scheme == "file") (pathSegments special path)), query,
               fragment }
      else some { scheme, host := none, path := .inr (encode .controls path), query, fragment }
    | [] =>
      if special then
        some { scheme, host := if scheme == "file" then some (.verbatim "") else none,
               path := .inl [""], query, fragment }
      else some { scheme, host := none, path := .inr "", query, fragment }

/-- The text of a URL in normal form. -/
def render (url : Url) : String :=
  let authority := match url.host with
    | some host =>
      "//" ++ host.render ++ (match url.port with
        | some port => ":" ++ toString port
        | none => "")
    | none => ""
  let path := match url.path with
    | .inl segments => String.join (segments.map ("/" ++ ·))
    | .inr text => text
  url.scheme ++ ":" ++ authority ++ path ++
    (match url.query with
      | some query => "?" ++ query
      | none => "") ++
    (match url.fragment with
      | some fragment => "#" ++ fragment
      | none => "")

/-- Whether requests can be sent to the URL: its scheme is `http` or `https`. -/
def isHttp (url : Url) : Bool :=
  url.scheme == "http" || url.scheme == "https"

/-- Whether the URL has a host. -/
def hasHost (url : Url) : Bool :=
  match url.host with
  | some (.verbatim "") => false
  | some _ => true
  | none => false

/-- Scheme, host and port, with the root path: where a connection goes. -/
def origin (url : Url) : String :=
  render { url with path := .inl [""], query := none, fragment := none }

end Url

end NftProbe
