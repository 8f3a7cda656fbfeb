/-!
# Punycode

The encoding of labels of internationalised domain names in ASCII (RFC 3492). A label is
written as its ASCII characters, then `-` if there were any, then the other code points as
variable-length integers in base 36: in increasing order of code point, each one the distance
from the state after the one before, counted over code points and positions. The digits are
`a` to `z` for 0 to 25 and `0` to `9` for 26 to 35; each digit has a threshold, set by a bias
that adapts to the distances seen, and a digit below its threshold ends the integer.

Decoding reads the same way back and fails on a digit that is not one, on an integer cut short,
and when a value reaches 2^32, the limit of the 32-bit arithmetic of decoders.

All loops are total: `adaptLoop` divides by 35, `encodeDigits` lowers `q`, and the decoder
consumes its input.
-/

set_option autoImplicit false

namespace NftProbe.Idna.Punycode

/-! ## Digits and bias -/

/-- The character of a digit: `a` to `z` for 0 to 25, then `0` to `9`. -/
def digitChar (digit : Nat) : Char :=
  if digit < 26 then Char.ofNat (0x61 + digit) else Char.ofNat (0x30 + digit - 26)

/-- The value of a digit, in either case. -/
def digitValue? (point : Nat) : Option Nat :=
  if 0x61 ≤ point && point ≤ 0x7A then some (point - 0x61)
  else if 0x41 ≤ point && point ≤ 0x5A then some (point - 0x41)
  else if 0x30 ≤ point && point ≤ 0x39 then some (point - 0x30 + 26)
  else none

/-- The threshold of the digit at weight position `k` (36, 72, …) under a bias: between 1
and 26. -/
def threshold (k bias : Nat) : Nat :=
  if k ≤ bias then 1 else if bias + 26 ≤ k then 26 else k - bias

theorem threshold_pos (k bias : Nat) : 1 ≤ threshold k bias := by
  unfold threshold
  split
  · omega
  · split <;> omega

theorem threshold_le (k bias : Nat) : threshold k bias ≤ 26 := by
  unfold threshold
  split
  · omega
  · split <;> omega

/-- Divides a distance by 35 until it is at most 455, counting 36 for each division. -/
def adaptLoop (delta k : Nat) : Nat × Nat :=
  if 455 < delta then adaptLoop (delta / 35) (k + 36) else (delta, k)
termination_by delta
decreasing_by exact Nat.div_lt_self (by omega) (by omega)

/-- The bias after a code point was placed at distance `delta`, with `points` code points
placed so far; the first distance is damped by 700, the others by 2. -/
def adaptBias (delta points : Nat) (first : Bool) : Nat :=
  let delta := if first then delta / 700 else delta / 2
  let (delta, k) := adaptLoop (delta + delta / points) 0
  k + 36 * delta / (delta + 38)

/-! ## Encoding -/

/-- The digits of a distance `q`, from weight position `k` on. -/
def encodeDigits (bias k q : Nat) : List Char :=
  let t := threshold k bias
  if q < t then [digitChar q]
  else digitChar (t + (q - t) % (36 - t)) :: encodeDigits bias (k + 36) ((q - t) / (36 - t))
termination_by q
decreasing_by
  have := threshold_pos k bias
  have := threshold_le k bias
  calc (q - threshold k bias) / (36 - threshold k bias)
      ≤ q - threshold k bias := Nat.div_le_self _ _
    _ < q := by omega

/-- The encoding state: the digits written, the distance counted since the last code point
placed, the bias, and how many code points are placed. -/
structure Encoder where
  out : List Char
  delta : Nat
  bias : Nat
  placed : Nat

/-- Passes one code point of the label while placing `m`: a smaller one adds to the distance,
`m` itself is written, and a larger one is left for later. `basic` counts the ASCII code
points, placed before any other. -/
def Encoder.scan (basic m : Nat) (state : Encoder) (point : Nat) : Encoder :=
  if point < m then { state with delta := state.delta + 1 }
  else if point == m then
    { out := state.out ++ encodeDigits state.bias 36 state.delta, delta := 0,
      bias := adaptBias state.delta (state.placed + 1) (state.placed == basic),
      placed := state.placed + 1 }
  else state

/-- Places the code points `todo`, in increasing order, after the last one placed, `n - 1`. -/
def encodeLoop (label : List Nat) (basic : Nat) : List Nat → Nat → Encoder → Encoder
  | [], _, state => state
  | m :: rest, n, state =>
    let state := { state with delta := state.delta + (m - n) * (state.placed + 1) }
    let state := label.foldl (Encoder.scan basic m) state
    encodeLoop label basic rest (m + 1) { state with delta := state.delta + 1 }

/-- The code points beyond ASCII of a label, each once, in increasing order. -/
def extendedPoints (label : List Nat) : List Nat :=
  ((label.filter (0x80 ≤ ·)).mergeSort (· ≤ ·)).eraseDups

/-- The encoding of a label, without the `xn--` prefix. -/
def encode (label : List Nat) : String :=
  let basic := (label.filter (· < 0x80)).map Char.ofNat
  let start : Encoder := { out := [], delta := 0, bias := 72, placed := basic.length }
  let state := encodeLoop label basic.length (extendedPoints label) 0x80 start
  String.ofList (basic ++ (if basic.isEmpty then [] else ['-']) ++ state.out)

/-! ## Decoding -/

/-- The limit of the arithmetic of decoders: a value that reaches it fails. -/
def wordLimit : Nat := Nat.pow 2 32

/-- Reads one variable-length integer from weight position `k`, adding each digit times its
weight to `i`: the new `i` and the rest of the input. -/
def decodeDigits (bias : Nat) : List Nat → Nat → Nat → Nat → Option (Nat × List Nat)
  | [], _, _, _ => none
  | c :: rest, k, weight, i =>
    match digitValue? c with
    | none => none
    | some digit =>
      let i := i + digit * weight
      let t := threshold k bias
      if wordLimit ≤ i then none
      else if digit < t then some (i, rest)
      else if wordLimit ≤ weight * (36 - t) then none
      else decodeDigits bias rest (k + 36) (weight * (36 - t)) i

/-- Reading an integer consumes at least one digit. -/
theorem decodeDigits_shorter (bias : Nat) :
    ∀ (input : List Nat) (k weight i : Nat) (result : Nat × List Nat),
      decodeDigits bias input k weight i = some result → result.2.length < input.length
  | [], _, _, _, _, h => by simp [decodeDigits] at h
  | c :: rest, k, weight, i, result, h => by
    unfold decodeDigits at h
    split at h
    · simp at h
    · dsimp only at h
      split at h
      · simp at h
      · split at h
        · rw [← Option.some.inj h]
          simp
        · split at h
          · simp at h
          · have := decodeDigits_shorter bias rest _ _ _ result h
            simp only [List.length_cons]
            omega

/-- Whether a number is a Unicode scalar value: a code point that is not a surrogate. -/
def isScalar (point : Nat) : Bool :=
  point < 0xD800 || (0xDFFF < point && point < 0x110000)

/-- Inserts the code points of the input one by one into `output`: `n` is the last code point
inserted and `i` the position after it, counted as the encoder counts. -/
def decodeLoop (bias n i : Nat) (output : List Nat) (input : List Nat) : Option (List Nat) :=
  match input with
  | [] => some output
  | c :: rest =>
    match h : decodeDigits bias (c :: rest) 36 1 i with
    | none => none
    | some (next, remaining) =>
      let length := output.length + 1
      let point := n + next / length
      if !isScalar point then none
      else
        let position := next % length
        decodeLoop (adaptBias (next - i) length (i == 0)) point (position + 1)
          (output.insertIdx position point) remaining
termination_by input.length
decreasing_by
  exact decodeDigits_shorter bias (c :: rest) 36 1 i (next, remaining) h

/-- Splits an encoding at its last `-`: the ASCII code points before it, the integers after it.
Without a `-`, everything is integers. -/
def splitBasic (input : List Nat) : List Nat × List Nat :=
  match input.reverse.span (· != 0x2D) with
  | (tail, []) => ([], tail.reverse)
  | (tail, _ :: head) => (head.reverse, tail.reverse)

/-- The label an encoding stands for, without the `xn--` prefix; `none` when it is not one. -/
def decode? (input : List Nat) : Option (List Nat) :=
  let (basic, extended) := splitBasic input
  if basic.any (0x80 ≤ ·) then none
  else decodeLoop 72 0x80 0 basic extended

end NftProbe.Idna.Punycode
