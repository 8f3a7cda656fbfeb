import NftProbe.Proofs.Abi.RoundTrip
import NftProbe.Contract.Views

/-!
# The length of an encoding

An encoding is one head word per value followed by the contents of the dynamic values, in order
(`length_encode`). A text's contents are a length word and its UTF-8 bytes padded to a whole
word, so they exceed the text by less than two words (`length_encodeContents_string_lt`); an
array's contents are a length word and the encoding of its items
(`length_encodeContents_array`).

`Short` bounds a text by 2^61 bytes. Any list of a few values, with up to four texts among them,
then has an encoding shorter than 2^64 bytes, which is all that decoding it back needs
(`decode_encode_append`): a program could hold no longer text.
-/

set_option autoImplicit false

namespace NftProbe.Abi

/-- The bytes of the contents of every dynamic value of a list, in order. -/
def tailLength (tokens : List Token) : Nat :=
  ((tokens.filter Token.isDynamic).map fun t => (encodeContents t).length).sum

@[simp] theorem tailLength_nil : tailLength [] = 0 := rfl

@[simp] theorem tailLength_cons (t : Token) (rest : List Token) :
    tailLength (t :: rest) =
      (if t.isDynamic then (encodeContents t).length else 0) + tailLength rest := by
  unfold tailLength
  cases h : t.isDynamic <;> simp [h]

theorem length_encodeParts_tail (headLength tailStart : Nat) (tokens : List Token) :
    (encodeParts headLength tailStart tokens).2.length = tailLength tokens := by
  induction tokens generalizing tailStart with
  | nil => rfl
  | cons t rest ih =>
    rw [encodeParts]
    split <;> simp_all

/-- An encoding is a head word per value and the contents of the dynamic ones. -/
theorem length_encode (tokens : List Token) :
    (encode tokens).length = wordSize * tokens.length + tailLength tokens := by
  simp [encode, length_encodeParts_tail]

theorem length_toUTF8_toList (s : String) : s.toUTF8.toList.length = s.utf8ByteSize := by
  rw [ByteArray.toList_eq, Array.length_toList]
  exact String.size_toByteArray

/-- Padded bytes: a length word, the bytes and less than a word of zeros. -/
theorem length_encodePadded_lt (data : Bytes) :
    (encodePadded data).length < data.length + 2 * wordSize := by
  have hrest : data.length % wordSize < wordSize := Nat.mod_lt _ (by decide)
  rw [encodePadded]
  split <;> simp_all [Bytes.zeros, wordSize] <;> omega

theorem length_encodeContents_string_lt (s : String) :
    (encodeContents (.string s)).length < s.utf8ByteSize + 2 * wordSize := by
  rw [encodeContents_string, ← length_toUTF8_toList]
  exact length_encodePadded_lt _

theorem length_encodeContents_array (items : List Token) :
    (encodeContents (.array items)).length = wordSize + (encode items).length := by
  rw [encodeContents]
  simp [encode, wordSize]

theorem u64Max_eq : u64Max = 2 ^ 64 - 1 := rfl

/-- A text that an encoding of a few values can hold with 64-bit offsets. -/
def Short (s : String) : Prop :=
  s.utf8ByteSize < 2 ^ 61

theorem Short.length_encodeContents {s : String} (h : Short s) :
    (encodeContents (.string s)).length < 2 ^ 61 + 64 := by
  have := length_encodeContents_string_lt s
  unfold Short at h
  simp only [wordSize] at this
  omega

/-- Texts each short enough fill the tail with less than 2^61 + 64 bytes apiece. -/
theorem tailLength_map_string_le {texts : List String} (h : ∀ s ∈ texts, Short s) :
    tailLength (texts.map .string) ≤ texts.length * (2 ^ 61 + 64) := by
  induction texts with
  | nil => simp
  | cons s rest ih =>
    have hs := (h s List.mem_cons_self).length_encodeContents
    have hrest := ih fun s' hs' => h s' (List.mem_cons_of_mem _ hs')
    simp only [List.map_cons, tailLength_cons, Token.isDynamic, if_true, List.length_cons]
    rw [Nat.succ_mul]
    omega

@[simp] theorem tailLength_map_address (addresses : List Address) :
    tailLength (addresses.map .address) = 0 := by
  induction addresses with
  | nil => rfl
  | cons a rest ih => simp [ih, Token.isDynamic]

/-- Values with no dynamic one among them take a word each. -/
theorem length_encode_of_static {tokens : List Token} (h : ∀ t ∈ tokens, t.isDynamic = false) :
    (encode tokens).length = wordSize * tokens.length := by
  have htail : tailLength tokens = 0 := by
    induction tokens with
    | nil => rfl
    | cons t rest ih =>
      simp [h t List.mem_cons_self, ih fun t' ht' => h t' (List.mem_cons_of_mem _ ht')]
  rw [length_encode, htail, Nat.add_zero]

theorem length_calldata (call : Call) : call.calldata.length = 4 + (encode call.args).length := by
  simp [Call.calldata, Call.selectorBytes, selector, Keccak.length_hash]

end NftProbe.Abi

namespace NftProbe.Contract

open Abi

/-! ### The calls and answers of the contract -/

theorem length_safeMint_calldata_le (recipient : Address) {uri : String} (h : Short uri) :
    (safeMint recipient uri).calldata.length ≤ u64Max := by
  have huri := h.length_encodeContents
  simp only [length_calldata, length_encode, safeMint, tailLength_cons, tailLength_nil,
    Token.isDynamic, if_true, if_false, Bool.false_eq_true, List.length_cons, List.length_nil]
  simp only [wordSize, u64Max_eq] at huri ⊢
  omega

/-- A batch of three, with short texts, fits. -/
theorem length_batchMint_calldata_le {recipients : List Address} {uris : List String}
    (hrecipients : recipients.length = 3) (huris : uris.length = 3) (h : ∀ s ∈ uris, Short s) :
    (batchMint recipients uris).calldata.length ≤ u64Max := by
  have htail := tailLength_map_string_le h
  simp only [length_calldata, length_encode, batchMint, tailLength_cons, tailLength_nil,
    Token.isDynamic, if_true, length_encodeContents_array, tailLength_map_address,
    List.length_map, List.length_cons, List.length_nil] at htail ⊢
  rw [hrecipients, huris] at *
  simp only [wordSize, u64Max_eq] at htail ⊢
  omega

theorem length_encode_string_le {uri : String} (h : Short uri) :
    (encode [.string uri]).length ≤ u64Max := by
  have huri := h.length_encodeContents
  simp only [length_encode, tailLength_cons, tailLength_nil, Token.isDynamic, if_true,
    List.length_cons, List.length_nil]
  simp only [wordSize, u64Max_eq] at huri ⊢
  omega

/-- The metadata, with its four texts short, fits. -/
theorem ContractInfo.length_encode_toTokens_le {info : ContractInfo}
    (h : ∀ s ∈ [info.name, info.symbol, info.version, info.chainName], Short s) :
    (encode info.toTokens).length ≤ u64Max := by
  have hname := (h info.name (by simp)).length_encodeContents
  have hsymbol := (h info.symbol (by simp)).length_encodeContents
  have hversion := (h info.version (by simp)).length_encodeContents
  have hchain := (h info.chainName (by simp)).length_encodeContents
  simp only [ContractInfo.toTokens, length_encode, tailLength_cons, tailLength_nil,
    Token.isDynamic, if_true, if_false, Bool.false_eq_true, List.length_cons, List.length_nil]
  simp only [wordSize, u64Max_eq] at hname hsymbol hversion hchain ⊢
  omega

end NftProbe.Contract
