/-!
# Writing doubles

A double is written with the fewest significant digits that read back as the same double: of
the decimals that round to it, one with the fewest digits, the closest to it when there are
several. The digits are then laid out by the size of the number:

* up to 16 digits before the point: plainly, with at least one digit after it (`1.5`,
  `120.0`, `0.001234`, down to four zeros after the point);
* otherwise in exponent form, `1e+30`, `1.234e+33` or `5e-324`: a positive exponent has a
  `+`, and no exponent is padded.

Zero is `0.0`, and a negative number is written with `-` in front.

`ofRatio` goes the other way: the double nearest to an exact ratio of naturals, ties to the
even significand.

The search works on exact numbers: a finite double is `significand · 2^exponent`, the doubles
next to it bound the decimals that round to it, and every comparison is made between natural
numbers.
-/

set_option autoImplicit false

namespace NftProbe.Double

/-- `2^n`. -/
def pow2 (n : Nat) : Nat := Nat.pow 2 n

/-- `10^n`. -/
def pow10 (n : Nat) : Nat := Nat.pow 10 n

/-- A finite double as sign, significand and binary exponent; `none` for infinities and NaN.
The value is `significand · 2^exponent`. -/
def decompose (bits : Nat) : Option (Bool × Nat × Int) :=
  let negative := bits ≥ pow2 63
  let field := bits / pow2 52 % 2048
  let fraction := bits % pow2 52
  if field == 2047 then none
  else if field == 0 then some (negative, fraction, -1074)
  else some (negative, fraction + pow2 52, (field : Int) - 1075)

/-- Compares `a · 10^k` with `y · 2^s`. -/
def compareScaled (a : Nat) (k : Int) (y : Nat) (s : Int) : Ordering :=
  let left := a * pow10 k.toNat * pow2 (-s).toNat
  let right := y * pow2 s.toNat * pow10 (-k).toNat
  compare left right

/-- The bounds of the decimals that round to `significand · 2^exponent`, in units of
`2^(exponent - 2)`, and whether the bounds themselves round to it (they do for an even
significand). The gap below is half as wide at a power of two, except at the smallest
exponent. -/
def bounds (significand : Nat) (exponent : Int) : Nat × Nat × Bool :=
  let narrowBelow := significand == pow2 52 && exponent > -1074
  (if narrowBelow then 4 * significand - 1 else 4 * significand - 2,
    4 * significand + 2, significand % 2 == 0)

/-- Whether `a · 10^k` rounds to `significand · 2^exponent`. -/
def roundsTo (significand : Nat) (exponent : Int) (a : Nat) (k : Int) : Bool :=
  let (low, high, inclusive) := bounds significand exponent
  let s := exponent - 2
  let aboveLow := match compareScaled a k low s with
    | .gt => true
    | .eq => inclusive
    | .lt => false
  let belowHigh := match compareScaled a k high s with
    | .lt => true
    | .eq => inclusive
    | .gt => false
  aboveLow && belowHigh

/-- `⌊significand · 2^exponent / 10^k⌋`. -/
def quotient (significand : Nat) (exponent k : Int) : Nat :=
  (significand * pow2 exponent.toNat * pow10 (-k).toNat) /
    (pow2 (-exponent).toNat * pow10 k.toNat)

/-- The decimal exponent `E` with `10^E ≤ significand · 2^exponent < 10^(E+1)`, found from an
estimate by moving it at most a few steps. -/
def decimalExponent (significand : Nat) (exponent : Int) : Int :=
  let estimate : Int := ((Nat.log2 significand : Int) + exponent) * 30103 / 100000
  let candidates := (List.range 7).map fun (i : Nat) => estimate - 3 + (i : Int)
  (candidates.filter fun e =>
    compareScaled 1 e significand exponent != .gt).getLast?.getD estimate

/-- Removes trailing zeros from a digit string held as a number, raising its exponent. -/
def trimZeros : Nat → Nat → Int → Nat × Int
  | 0, digits, k => (digits, k)
  | fuel + 1, digits, k =>
    if digits != 0 && digits % 10 == 0 then trimZeros fuel (digits / 10) (k + 1)
    else (digits, k)

/-- The shortest digits of a positive double `significand · 2^exponent` and their decimal
exponent: the double is the nearest to `digits · 10^k`. When both neighbours of the quotient
round to the double, the closer is taken, the upper one at halfway. -/
def shortest (significand : Nat) (exponent : Int) : Nat × Int :=
  let top := decimalExponent significand exponent
  let attempt (n : Nat) : Option (Nat × Int) :=
    let k := top - n + 1
    let d := quotient significand exponent k
    let down := roundsTo significand exponent d k
    let up := roundsTo significand exponent (d + 1) k
    if down && up then
      let belowGap := compareScaled (2 * d + 1) k (2 * significand) exponent
      some (if belowGap == .gt then d else d + 1, k)
    else if down then some (d, k)
    else if up then some (d + 1, k)
    else none
  let found := (List.range 17).findSome? fun i => attempt (i + 1)
  let (digits, k) := found.getD (quotient significand exponent (top - 16), top - 16)
  trimZeros 20 digits k

/-- A run of zeros. -/
def zeros (n : Nat) : String :=
  String.ofList (List.replicate n '0')

/-- Lays out digits with decimal exponent `k`. -/
def layout (digits : Nat) (k : Int) : String :=
  let text := toString digits
  let length : Int := text.length
  let kk := length + k
  if 0 ≤ k && kk ≤ 16 then text ++ zeros k.toNat ++ ".0"
  else if 0 < kk && kk ≤ 16 then
    String.ofList (text.toList.take kk.toNat) ++ "." ++ String.ofList (text.toList.drop kk.toNat)
  else if -5 < kk && kk ≤ 0 then "0." ++ zeros (-kk).toNat ++ text
  else
    let power := kk - 1
    let exponent := (if power < 0 then "e" else "e+") ++ toString power
    if length == 1 then text ++ exponent
    else String.ofList (text.toList.take 1) ++ "." ++ String.ofList (text.toList.drop 1) ++ exponent

/-- The text of a double. -/
def render (value : Float) : String :=
  match decompose value.toBits.toNat with
  | none => if value.isNaN then "NaN" else if value > 0 then "inf" else "-inf"
  | some (negative, significand, exponent) =>
    let sign := if negative then "-" else ""
    if significand == 0 then sign ++ "0.0"
    else
      let (digits, k) := shortest significand exponent
      sign ++ layout digits k

/-- `⌊log2 (n / d)⌋` for positive `n` and `d`. The difference of the bit lengths is the floor or
one above it. -/
def log2Ratio (n d : Nat) : Int :=
  let guess : Int := (Nat.log2 n : Int) - (Nat.log2 d : Int)
  if compareScaled2 n d guess then guess else guess - 1
where
  /-- Whether `n / d ≥ 2^e`. -/
  compareScaled2 (n d : Nat) (e : Int) : Bool :=
    n * pow2 (-e).toNat ≥ d * pow2 e.toNat

/-- `n / d` rounded to a natural, a half going to the even neighbour. -/
def roundHalfEven (n d : Nat) : Nat :=
  let q := n / d
  let r := n % d
  if 2 * r > d then q + 1
  else if 2 * r < d then q
  else if q % 2 == 0 then q else q + 1

/-- The bits of the double nearest to `n / d` (positive `n` and `d`), ties to even; the bits of
infinity when it is too large. The significand is `n / d / 2^exponent`, rounded, at the
exponent that leaves it 53 bits, or the smallest one. -/
def ratioBits (n d : Nat) : Nat :=
  let exponent := max (log2Ratio n d - 52) (-1074)
  let significand := roundHalfEven (n * pow2 (-exponent).toNat) (d * pow2 exponent.toNat)
  let (significand, exponent) :=
    if significand == pow2 53 then (pow2 52, exponent + 1) else (significand, exponent)
  if exponent > 971 then 2047 * pow2 52
  else if significand < pow2 52 then significand
  else (exponent + 1075).toNat * pow2 52 + (significand - pow2 52)

/-- The double nearest to `n / d`, ties to even; `0.0` for `n = 0` and infinity when it is too
large. -/
def ofRatio (n d : Nat) : Float :=
  if n == 0 || d == 0 then 0.0 else Float.ofBits (ratioBits n d).toUInt64

end NftProbe.Double
