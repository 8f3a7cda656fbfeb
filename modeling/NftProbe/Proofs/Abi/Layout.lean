import NftProbe.Proofs.Abi.Lengths

/-!
# The layout of an encoding

`encode tokens` is one 32-byte head word per value, then the tails of the dynamic values in
the order of the values. This module states that layout against definitions of its own, which
say what the words and tails hold rather than how they are written:

* `staticWord`: the head word of a static value, an address right-aligned after twelve zero
  bytes, an integer big-endian, a boolean as 31 zero bytes and then 0 or 1;
* `tailLayout`: the tail of a dynamic value, its length word and then its bytes padded with
  zero bytes to whole words, or, for an array, the encoding of its items as a list of their
  own; `tailSize` is its size, `32 + 32 * ⌈n / 32⌉` for `n` bytes;
* `tailOffset`: where the tail of a value starts, after every head and the tails of the dynamic
  values before it.

`encode_layout` puts it together: the length of an encoding, the tails standing after the heads
in order, and, for the value at any position, its head word and the bytes at its tail's offset.
An array's tail holds an encoding again, so the layout holds at every level of nesting.

The proof walks `encodeParts` once for the heads (`encodeParts_heads_word`) and once for the
tails (`encodeParts_tails`), keeping the tail already written as a parameter.
-/

set_option autoImplicit false

namespace NftProbe

namespace Bytes

theorem ofNat_mod_pow (width n : Nat) : ofNat width (n % 256 ^ width) = ofNat width n := by
  induction width generalizing n with
  | zero => rfl
  | succ width ih =>
    have hdiv : n % 256 ^ (width + 1) / 256 = n / 256 % 256 ^ width := by
      rw [pow_succ', Nat.mod_mul_right_div_self]
    have hmod : n % 256 ^ (width + 1) % 256 = n % 256 := by
      rw [pow_succ', Nat.mod_mul_right_mod]
    rw [ofNat, ofNat, hdiv, hmod, ih]

theorem ofNat_zero (width : Nat) : ofNat width 0 = zeros width := by
  induction width with
  | zero => rfl
  | succ width ih => rw [ofNat, ih, zeros, zeros, List.replicate_succ']; rfl

/-- A number that fits in `width` bytes, written in `extra + width` bytes, has `extra` zero
bytes in front. -/
theorem ofNat_add_of_lt (extra : Nat) {width n : Nat} (h : n < 256 ^ width) :
    ofNat (extra + width) n = zeros extra ++ ofNat width n := by
  induction width generalizing n with
  | zero =>
    obtain rfl : n = 0 := by simpa using h
    rw [Nat.add_zero, ofNat_zero, ofNat, List.append_nil]
  | succ width ih =>
    have hdiv : n / 256 < 256 ^ width := by
      rw [pow_succ] at h
      omega
    rw [← Nat.add_assoc, ofNat, ih hdiv, ofNat, List.append_assoc]

end Bytes

theorem Word.toBytes_ofNatWrap (n : Nat) : (Word.ofNatWrap n).toBytes = Bytes.ofNat 32 n :=
  Bytes.ofNat_mod_pow 32 n

/-- An address's word is twelve zero bytes and its own twenty. -/
theorem Address.toWord_toBytes (a : Address) : a.toWord.toBytes = Bytes.zeros 12 ++ a.toBytes := by
  have hbound : (256 : Nat) ^ 20 = addressBound := rfl
  have hlt : a.toNat < 256 ^ 20 := by
    rw [hbound]
    exact a.isLt
  rw [Address.toWord, Word.toBytes_ofNatWrap, Address.toBytes, Bytes.ofNat_add_of_lt 12 hlt]

namespace Abi

/-! ### What the words and tails hold -/

/-- The head word of a static value: an address right-aligned after twelve zero bytes, an
integer big-endian, a boolean as 31 zero bytes and then 0 or 1. -/
def staticWord : Token → Bytes
  | .address a => Bytes.zeros 12 ++ a.toBytes
  | .uint w => w.toBytes
  | .bool b => Bytes.zeros 31 ++ [if b then 1 else 0]
  | _ => Bytes.zeros wordSize

/-- The zero bytes that fill `n` bytes up to a whole number of words. -/
def paddingLength (n : Nat) : Nat :=
  (wordSize - n % wordSize) % wordSize

/-- The tail of a value: for a string or a byte string, its length word and its bytes padded
with zero bytes to whole words; for an array, its length word and the encoding of its items. A
static value has no tail. -/
def tailLayout : Token → Bytes
  | .string s =>
    Bytes.ofNat wordSize s.utf8ByteSize ++ s.toUTF8.toList ++
      Bytes.zeros (paddingLength s.utf8ByteSize)
  | .bytes b => Bytes.ofNat wordSize b.length ++ b ++ Bytes.zeros (paddingLength b.length)
  | .array items => Bytes.ofNat wordSize items.length ++ encode items
  | _ => []

/-- The size of a tail: a length word and the bytes rounded up to whole words, or a length word
and the encoding of the items. -/
def tailSize : Token → Nat
  | .string s => wordSize + wordSize * ((s.utf8ByteSize + wordSize - 1) / wordSize)
  | .bytes b => wordSize + wordSize * ((b.length + wordSize - 1) / wordSize)
  | .array items => wordSize + (encode items).length
  | _ => 0

/-- The tails of the dynamic values of a list, in order. -/
def tails (tokens : List Token) : Bytes :=
  ((tokens.filter Token.isDynamic).map tailLayout).flatten

/-- The bytes the tails of the dynamic values of a list take. -/
def tailsSize (tokens : List Token) : Nat :=
  ((tokens.filter Token.isDynamic).map tailSize).sum

/-- Where, in the encoding of `tokens`, the tail of the value after `before` starts: after all
the heads and the tails of the values before it. -/
def tailOffset (tokens before : List Token) : Nat :=
  wordSize * tokens.length + tailsSize before

/-- The word at position `index` of a byte string. -/
def headWord (data : Bytes) (index : Nat) : Bytes :=
  (data.drop (wordSize * index)).take wordSize

@[simp] theorem length_staticWord (t : Token) : (staticWord t).length = wordSize := by
  cases t <;> simp [staticWord, Address.toBytes, Bytes.zeros, wordSize]

/-- A word standing within `data` reads the same with any bytes after `data`. -/
theorem headWord_append_of_le {data : Bytes} (rest : Bytes) {index : Nat}
    (h : wordSize * index + wordSize ≤ data.length) :
    headWord (data ++ rest) index = headWord data index := by
  rw [headWord, headWord, List.drop_append_of_le_length (by omega),
    List.take_append_of_le_length (by simp; omega)]

theorem tailLayout_of_static {t : Token} (h : t.isDynamic = false) : tailLayout t = [] := by
  cases t <;> simp_all [Token.isDynamic, tailLayout]

theorem tailSize_of_static {t : Token} (h : t.isDynamic = false) : tailSize t = 0 := by
  cases t <;> simp_all [Token.isDynamic, tailSize]

/-- A static value adds nothing to the tails, so the tails of a list are each value's own in
turn. -/
@[simp] theorem tails_cons (t : Token) (rest : List Token) :
    tails (t :: rest) = tailLayout t ++ tails rest := by
  cases h : t.isDynamic
  · simp [tails, h, tailLayout_of_static h]
  · simp [tails, h]

@[simp] theorem tails_nil : tails [] = [] := rfl

theorem tails_append (first second : List Token) :
    tails (first ++ second) = tails first ++ tails second := by
  simp [tails]

@[simp] theorem tailsSize_cons (t : Token) (rest : List Token) :
    tailsSize (t :: rest) = tailSize t + tailsSize rest := by
  cases h : t.isDynamic
  · simp [tailsSize, h, tailSize_of_static h]
  · simp [tailsSize, h]

@[simp] theorem tailsSize_nil : tailsSize [] = 0 := rfl

/-- Padding to whole words: `n` bytes and their padding take `⌈n / 32⌉` words. -/
theorem add_paddingLength (n : Nat) :
    n + paddingLength n = wordSize * ((n + wordSize - 1) / wordSize) := by
  simp only [paddingLength, wordSize]
  omega

/-- Each tail has the size `tailSize` gives. -/
theorem length_tailLayout (t : Token) : (tailLayout t).length = tailSize t := by
  cases t with
  | string s =>
    have hpad := add_paddingLength s.utf8ByteSize
    simp only [tailLayout, tailSize, List.length_append, Bytes.length_ofNat, Bytes.zeros,
      List.length_replicate, length_toUTF8_toList]
    omega
  | bytes b =>
    have hpad := add_paddingLength b.length
    simp only [tailLayout, tailSize, List.length_append, Bytes.length_ofNat, Bytes.zeros,
      List.length_replicate]
    omega
  | array items => simp [tailLayout, tailSize]
  | address a => rfl
  | uint w => rfl
  | bool b => rfl

theorem length_tails (tokens : List Token) : (tails tokens).length = tailsSize tokens := by
  induction tokens with
  | nil => rfl
  | cons t rest ih => simp [ih, length_tailLayout]

/-! ### The encoder writes what the layout says -/

/-- Padded bytes: a length word, the bytes, and zero bytes up to a whole word. -/
theorem encodePadded_eq (data : Bytes) :
    encodePadded data =
      Bytes.ofNat wordSize data.length ++ data ++ Bytes.zeros (paddingLength data.length) := by
  have hrest : data.length % wordSize < wordSize := Nat.mod_lt _ (by decide)
  rw [encodePadded, Word.toBytes_ofNatWrap]
  split
  · rename_i hzero
    have hpad : paddingLength data.length = 0 := by
      simp only [paddingLength, hzero, Nat.sub_zero, Nat.mod_self]
    rw [hpad]
    rfl
  · rename_i hpos
    have hpad : paddingLength data.length = wordSize - data.length % wordSize := by
      simp only [paddingLength]
      exact Nat.mod_eq_of_lt (by omega)
    rw [hpad]
    rfl

theorem encodeStatic_eq_staticWord (t : Token) : encodeStatic t = staticWord t := by
  cases t with
  | address a => exact Address.toWord_toBytes a
  | uint w => rfl
  | bool b => exact encodeStatic_bool b
  | string s => rfl
  | bytes b => rfl
  | array items => rfl

theorem encodeContents_eq_tailLayout {t : Token} (h : t.isDynamic = true) :
    encodeContents t = tailLayout t := by
  cases t with
  | string s =>
    rw [encodeContents_string, encodePadded_eq, length_toUTF8_toList]
    rfl
  | bytes b => rw [encodeContents_bytes, encodePadded_eq]; rfl
  | array items =>
    rw [encodeContents, Word.toBytes_ofNatWrap, List.append_assoc]
    rfl
  | address a => simp [Token.isDynamic] at h
  | uint w => simp [Token.isDynamic] at h
  | bool b => simp [Token.isDynamic] at h

/-- The bytes the code counts for the tails are the sizes the layout gives. -/
theorem tailLength_eq_tailsSize (tokens : List Token) : tailLength tokens = tailsSize tokens := by
  induction tokens with
  | nil => rfl
  | cons t rest ih =>
    cases h : t.isDynamic
    · simp [h, ih, tailSize_of_static h]
    · simp [h, ih, encodeContents_eq_tailLayout h, length_tailLayout]

/-- The tail `encodeParts` writes is the tails of the values, whatever it started from. -/
theorem encodeParts_tails (headLength tailStart : Nat) (tokens : List Token) :
    (encodeParts headLength tailStart tokens).2 = tails tokens := by
  induction tokens generalizing tailStart with
  | nil => rfl
  | cons t rest ih =>
    rw [encodeParts]
    cases h : t.isDynamic
    · simp [ih, tailLayout_of_static h]
    · simp [ih, encodeContents_eq_tailLayout h]

/-- The head word `encodeParts` writes for the value after `before`: the offset of its contents,
counted from `headLength + tailStart`, or the value itself. -/
theorem encodeParts_heads_word (headLength tailStart : Nat) (before after : List Token)
    (t : Token) :
    headWord (encodeParts headLength tailStart (before ++ t :: after)).1 before.length =
      if t.isDynamic then Bytes.ofNat wordSize (headLength + tailStart + tailsSize before)
      else staticWord t := by
  induction before generalizing tailStart with
  | nil =>
    rw [List.nil_append, encodeParts]
    cases h : t.isDynamic
    · simp [headWord, encodeStatic_eq_staticWord]
    · simp [headWord, Word.toBytes_ofNatWrap, wordSize]
  | cons b before ih =>
    rw [List.cons_append, encodeParts]
    cases h : b.isDynamic
    · have hsum : headLength + tailStart + tailsSize before =
          headLength + tailStart + tailsSize (b :: before) := by
        rw [tailsSize_cons, tailSize_of_static h, Nat.zero_add]
      have hword := ih tailStart
      simp only [headWord, Bool.false_eq_true, if_false, List.length_cons] at hword ⊢
      rw [Nat.mul_succ, Nat.add_comm, ← List.drop_drop,
        List.drop_left' (by simp [encodeStatic_eq_staticWord]), hword, hsum]
    · have hsum : headLength + (tailStart + (encodeContents b).length) + tailsSize before =
          headLength + tailStart + tailsSize (b :: before) := by
        rw [tailsSize_cons, encodeContents_eq_tailLayout h, length_tailLayout]
        omega
      have hword := ih (tailStart + (encodeContents b).length)
      simp only [headWord, if_true, List.length_cons] at hword ⊢
      rw [Nat.mul_succ, Nat.add_comm, ← List.drop_drop, List.drop_left' (by simp [wordSize]),
        hword, hsum]

/-! ### The layout of an encoding -/

theorem length_encode_eq (tokens : List Token) :
    (encode tokens).length = wordSize * tokens.length + tailsSize tokens := by
  rw [length_encode, tailLength_eq_tailsSize]

/-- After the heads stand the tails, in order. -/
theorem drop_heads_encode (tokens : List Token) :
    (encode tokens).drop (wordSize * tokens.length) = tails tokens := by
  rw [encode, List.drop_left' (length_encodeParts_heads _ _ _), encodeParts_tails]

/-- The head word of each value: the offset of its tail, or the value itself. -/
theorem headWord_encode (before after : List Token) (t : Token) :
    headWord (encode (before ++ t :: after)) before.length =
      if t.isDynamic then Bytes.ofNat wordSize (tailOffset (before ++ t :: after) before)
      else staticWord t := by
  have hfits : wordSize * before.length + wordSize ≤
      (encodeParts (wordSize * (before ++ t :: after).length) 0
        (before ++ t :: after)).1.length := by
    rw [length_encodeParts_heads]
    simp only [List.length_append, List.length_cons, wordSize]
    omega
  have hword := encodeParts_heads_word (wordSize * (before ++ t :: after).length) 0 before after t
  rw [Nat.add_zero, ← tailOffset] at hword
  rw [encode, headWord_append_of_le _ hfits, hword]

/-- At the offset of each value's tail stand that tail and the tails of the values after it. -/
theorem drop_tailOffset_encode (before after : List Token) (t : Token) :
    (encode (before ++ t :: after)).drop (tailOffset (before ++ t :: after) before) =
      tailLayout t ++ tails after := by
  rw [tailOffset, ← List.drop_drop, drop_heads_encode, tails_append, tails_cons,
    ← length_tails before, List.drop_left]

/-- The layout of an encoding: its length is a word per value and the tails of the dynamic
ones; the tails stand after the heads, in order; the head word of a value at any position is
the big-endian offset of its tail, or the value itself; and at that offset stand its tail and
those of the values after it. -/
theorem encode_layout :
    (∀ tokens : List Token,
      (encode tokens).length =
        wordSize * tokens.length + ((tokens.filter Token.isDynamic).map tailSize).sum) ∧
    (∀ tokens : List Token, (encode tokens).drop (wordSize * tokens.length) = tails tokens) ∧
    (∀ (before after : List Token) (t : Token),
      headWord (encode (before ++ t :: after)) before.length =
        (if t.isDynamic then Bytes.ofNat wordSize (tailOffset (before ++ t :: after) before)
          else staticWord t) ∧
      (encode (before ++ t :: after)).drop (tailOffset (before ++ t :: after) before) =
        tailLayout t ++ tails after) :=
  ⟨length_encode_eq, drop_heads_encode,
    fun before after t =>
      ⟨headWord_encode before after t, drop_tailOffset_encode before after t⟩⟩

end Abi

end NftProbe
