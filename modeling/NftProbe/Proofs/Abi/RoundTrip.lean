import NftProbe.Contract.Calls
import Mathlib

/-!
# Decoding inverts encoding

`decode types (encode tokens ++ suffix)` gives back `tokens` when each value has its type
(`Token.HasType`, nested arrays and empty ones included), whatever bytes follow the encoding
(`decode_encode_append`). The one condition is that the encoding is shorter than 2^64 bytes,
so that every offset and length in it is a 64-bit number, as it is for any byte string the
program can hold; the bytes after it may be any. The arguments of a call read back from its calldata after the selector the same way
(`decode_calldata_args`).

The proof follows the layout of an encoding. `Placed data base index t` says where the value
`t` stands when it is the value at `index` of a list encoded from `base` in `data`: a static
value is its own head word; a dynamic one has in its head the offset from `base` at which its
contents stand. `encodeParts_placed` lays every value of a list out so, and
`decodeAt_placed`, by induction on the typing, reads each value back from where it is placed;
for an array this is the same argument one level down, from just after its length word.
-/

set_option autoImplicit false

namespace NftProbe

/-! ### Numbers as bytes -/

namespace Bytes

@[simp] theorem length_ofNat (width n : Nat) : (ofNat width n).length = width := by
  induction width generalizing n with
  | zero => rfl
  | succ width ih => simp [ofNat, ih]

theorem toNat_append_byte (bytes : Bytes) (byte : UInt8) :
    toNat (bytes ++ [byte]) = toNat bytes * 256 + byte.toNat := by
  simp [toNat, List.foldl_append]

/-- Writing a number in `width` bytes keeps it modulo `256 ^ width`. -/
theorem toNat_ofNat (width n : Nat) : toNat (ofNat width n) = n % 256 ^ width := by
  induction width generalizing n with
  | zero => simp [ofNat, toNat, Nat.mod_one]
  | succ width ih =>
    have hbyte : (UInt8.ofNat (n % 256)).toNat = n % 256 := by simp
    rw [ofNat, toNat_append_byte, ih, hbyte, pow_succ', Nat.mod_mul]
    ring

end Bytes

namespace Word

@[simp] theorem length_toBytes (w : Word) : w.toBytes.length = 32 :=
  Bytes.length_ofNat 32 w.toNat

theorem toNat_ofNatWrap {n : Nat} (h : n < wordBound) : (ofNatWrap n).toNat = n :=
  Nat.mod_eq_of_lt h

theorem toNat_ofBytes_toBytes (w : Word) : Bytes.toNat w.toBytes = w.toNat := by
  have hbound : (256 : Nat) ^ 32 = wordBound := rfl
  rw [toBytes, Bytes.toNat_ofNat, hbound, Nat.mod_eq_of_lt w.isLt]

theorem ofBytes_toBytes (w : Word) : ofBytes w.toBytes = w := by
  obtain ⟨n, hn⟩ := w
  simp only [ofBytes, toNat_ofBytes_toBytes, ofNatWrap, Nat.mod_eq_of_lt hn]

end Word

theorem Address.ofBytes_toWord_toBytes (a : Address) : Address.ofBytes a.toWord.toBytes = a := by
  obtain ⟨n, hn⟩ := a
  have hword : n < wordBound := lt_trans hn (by decide)
  simp only [Address.ofBytes, Word.toNat_ofBytes_toBytes, Address.toWord,
    Word.toNat_ofNatWrap hword, Address.ofNatWrap, Nat.mod_eq_of_lt hn]

/-- Keccak-256 gives 32 bytes, so a selector is four. -/
@[simp] theorem Keccak.length_hash (message : Bytes) : (Keccak.hash message).length = 32 := by
  simp [Keccak.hash, Keccak.bytesOfLane]

/-! ### Text as bytes -/

theorem ByteArray.toList_loop_eq (b : ByteArray) (i : Nat) (r : List UInt8) :
    ByteArray.toList.loop b i r = r.reverse ++ b.data.toList.drop i := by
  fun_induction ByteArray.toList.loop b i r with
  | case1 i r hi ih =>
    have hi' : i < b.data.toList.length := by rw [Array.length_toList]; exact hi
    rw [ih, List.drop_eq_getElem_cons hi']
    simp [ByteArray.get!, hi, getElem!_pos]
  | case2 i r hi =>
    have hi' : b.data.toList.length ≤ i := by
      rw [Array.length_toList]
      exact Nat.le_of_not_lt hi
    simp [List.drop_eq_nil_of_le hi']

theorem ByteArray.toList_eq (b : ByteArray) : b.toList = b.data.toList := by
  simp [ByteArray.toList, ByteArray.toList_loop_eq]

namespace Abi

variable {α β : Type}

theorem decodeUtf8_toUTF8 (s : String) : (decodeUtf8 s.toUTF8.toList).run = .ok (.ok s) := by
  have hbytes : ByteArray.mk s.toUTF8.toList.toArray = s.toUTF8 := by
    rw [ByteArray.toList_eq]
  simp only [decodeUtf8, hbytes, String.fromUTF8?,
    dif_pos (show s.toUTF8.IsValidUTF8 from s.isValidUTF8)]
  rfl

/-! ### Reading from where bytes stand -/

/-- A step that answers a value passes it on; stated for any error beside the overflow, so that
it serves decoding, reverting contract code and the harness's checks alike. -/
theorem run_bind_of_ok {ε : Type} {x : ExceptT ε (Except Overflow) α}
    {f : α → ExceptT ε (Except Overflow) β} {a : α}
    (hx : x.run = .ok (.ok a)) : (x >>= f).run = (f a).run := by
  simp only [ExceptT.run_bind, hx]
  rfl

theorem prefix_drop_append {l a b : Bytes} {p : Nat} (h : a ++ b <+: l.drop p) :
    a <+: l.drop p ∧ b <+: l.drop (p + a.length) := by
  obtain ⟨rest, hrest⟩ := h
  refine ⟨⟨b ++ rest, by rw [← List.append_assoc, hrest]⟩, rest, ?_⟩
  rw [← List.drop_drop, ← hrest, List.append_assoc, List.drop_left]

/-- Bytes standing at `offset` end within the data. -/
theorem end_le_of_standing {data bytes : Bytes} {offset : Nat} (h : bytes <+: data.drop offset)
    (hne : bytes ≠ []) : offset + bytes.length ≤ data.length := by
  have hlen := h.length_le
  rw [List.length_drop] at hlen
  have hpos : 0 < bytes.length := List.length_pos_iff.2 hne
  omega

/-- `enc` stands at the start of `data` and is shorter than 2^64 bytes, so that every offset
and length within it is a 64-bit number. -/
structure Within (enc data : Bytes) : Prop where
  isPrefix : enc <+: data
  fits : enc.length ≤ u64Max

variable {enc data : Bytes}

/-- Bytes standing within `enc` are read from `data` as they are. -/
theorem slice_at {bytes : Bytes} {offset length : Nat} (hw : Within enc data)
    (h : bytes <+: enc.drop offset) (hlength : bytes.length = length)
    (hend : offset + length ≤ enc.length) :
    (slice data offset length).run = .ok (.ok bytes) := by
  subst hlength
  have hfits := hw.fits
  have hdata : bytes <+: data.drop offset := h.trans (hw.isPrefix.drop offset)
  have hend' : offset + bytes.length ≤ data.length := le_trans hend hw.isPrefix.length_le
  have htake : (data.drop offset).take bytes.length = bytes :=
    (List.prefix_iff_eq_take.1 hdata).symm
  simp only [slice, show ¬offset + bytes.length > u64Max by omega, if_false, Bytes.slice?,
    hend', if_true, htake]
  rfl

/-- A word standing at `offset` reads back as itself. -/
theorem slice_word_at {offset : Nat} {w : Word} (hw : Within enc data)
    (h : w.toBytes <+: enc.drop offset) :
    (slice data offset wordSize).run = .ok (.ok w.toBytes) := by
  have hend := end_le_of_standing h (by simp [← List.length_pos_iff])
  rw [Word.length_toBytes] at hend
  exact slice_at hw h (Word.length_toBytes w) hend

/-- A length or offset word reads back as its number. -/
theorem readLength_at {offset n : Nat} (hw : Within enc data)
    (h : (Word.ofNatWrap n).toBytes <+: enc.drop offset) (hn : n ≤ u64Max) :
    (readLength data offset).run = .ok (.ok n) := by
  have hword : n < wordBound := lt_of_le_of_lt hn (by decide)
  rw [readLength, run_bind_of_ok (slice_word_at hw h), Word.toNat_ofBytes_toBytes,
    Word.toNat_ofNatWrap hword]
  simp only [show ¬n > u64Max by omega, if_false]
  rfl

theorem saturatingAdd_of_le {a b : Nat} (h : a + b ≤ u64Max) : U64.saturatingAdd a b = a + b :=
  Nat.min_eq_left h

/-- Decoding over a list gives `items` when the pass over each element gives the item at its
position. -/
theorem mapM_of_getElem {γ : Type} {f : γ → Decoding Token} :
    ∀ (xs : List γ) (items : List Token), xs.length = items.length →
      (∀ j (hj : j < xs.length) (hi : j < items.length), (f xs[j]).run = .ok (.ok items[j])) →
      (xs.mapM f).run = .ok (.ok items)
  | [], [], _, _ => rfl
  | [], _ :: _, hlen, _ => by simp at hlen
  | _ :: _, [], hlen, _ => by simp at hlen
  | x :: xs, item :: items, hlen, h => by
    have hfirst : (f x).run = .ok (.ok item) := h 0 (by simp) (by simp)
    have hrest := mapM_of_getElem xs items (by simpa using hlen) fun j hj hi =>
      h (j + 1) (by simpa using hj) (by simpa using hi)
    rw [List.mapM_cons, run_bind_of_ok hfirst, run_bind_of_ok hrest]
    rfl

/-! ### Types and layout -/

/-- A value of a type: the kinds agree, and every item of an array has the array's item type. -/
inductive Token.HasType : Token → ParamType → Prop
  | address (a : Address) : HasType (.address a) .address
  | uint (w : Word) : HasType (.uint w) .uint
  | bool (b : Bool) : HasType (.bool b) .bool
  | string (s : String) : HasType (.string s) .string
  | bytes (b : Bytes) : HasType (.bytes b) .bytes
  | array {items : List Token} {item : ParamType} :
      (∀ t ∈ items, HasType t item) → HasType (.array items) (.array item)

@[simp] theorem length_encodeStatic (t : Token) : (encodeStatic t).length = 32 := by
  cases t <;> simp [encodeStatic, Bytes.zeros, wordSize]

theorem encodeContents_string (s : String) :
    encodeContents (.string s) = encodePadded s.toUTF8.toList := by
  rw [encodeContents]

theorem encodeContents_bytes (b : Bytes) : encodeContents (.bytes b) = encodePadded b := by
  rw [encodeContents]

/-- The word of a boolean: 31 zero bytes, then 0 or 1. -/
theorem encodeStatic_bool (b : Bool) :
    encodeStatic (.bool b) = Bytes.zeros 31 ++ [if b then 1 else 0] := by
  cases b <;> decide

/-- The contents of every value start with a word, so they are never empty. -/
theorem encodeContents_ne_nil (t : Token) : encodeContents t ≠ [] := by
  rw [← List.length_pos_iff]
  cases t <;> simp [encodeContents, encodePadded]

@[simp] theorem length_encodeParts_heads (headLength tailLength : Nat) (tokens : List Token) :
    (encodeParts headLength tailLength tokens).1.length = wordSize * tokens.length := by
  induction tokens generalizing tailLength with
  | nil => rfl
  | cons t rest ih =>
    rw [encodeParts]
    split <;> simp [ih, wordSize, Nat.mul_succ, Nat.add_comm]

/-- Where the value `t` stands when it is the value at `index` of a list encoded from `base`
in `data`: a static value is its own head word, a dynamic one has in its head the offset from
`base` at which its contents stand. -/
def Placed (data : Bytes) (base index : Nat) (t : Token) : Prop :=
  if t.isDynamic then
    ∃ offset, (Word.ofNatWrap offset).toBytes <+: data.drop (base + wordSize * index) ∧
      encodeContents t <+: data.drop (base + offset)
  else encodeStatic t <+: data.drop (base + wordSize * index)

/-- The heads and the tail of a list, standing in `data`, place each of its values: the heads
from index `k` on, the tail `headLength + tailLength` bytes after `base`. -/
theorem encodeParts_placed {data : Bytes} {base headLength : Nat} (tokens : List Token)
    (tailLength k : Nat)
    (hheads : (encodeParts headLength tailLength tokens).1 <+: data.drop (base + wordSize * k))
    (htails : (encodeParts headLength tailLength tokens).2 <+:
      data.drop (base + (headLength + tailLength))) :
    ∀ j (hj : j < tokens.length), Placed data base (k + j) tokens[j] := by
  induction tokens generalizing tailLength k with
  | nil => intro j hj; cases hj
  | cons t rest ih =>
    rw [encodeParts] at hheads htails
    intro j hj
    by_cases hdyn : t.isDynamic = true
    · simp only [hdyn, if_true] at hheads htails
      obtain ⟨hhead, hlater⟩ := prefix_drop_append hheads
      obtain ⟨hcontents, htail⟩ := prefix_drop_append htails
      cases j with
      | zero =>
        show Placed data base (k + 0) t
        rw [Placed, if_pos hdyn]
        exact ⟨headLength + tailLength, hhead, hcontents⟩
      | succ j =>
        have hnext := ih (tailLength + (encodeContents t).length) (k + 1)
          (by simpa [wordSize, Nat.mul_succ, Nat.add_assoc] using hlater)
          (by simpa [Nat.add_assoc] using htail)
        simpa [Nat.add_assoc, Nat.add_comm 1 j] using hnext j (by simpa using hj)
    · simp only [hdyn, if_false, Bool.false_eq_true] at hheads htails
      obtain ⟨hhead, hlater⟩ := prefix_drop_append hheads
      cases j with
      | zero =>
        show Placed data base (k + 0) t
        rw [Placed, if_neg hdyn]
        exact hhead
      | succ j =>
        have hnext := ih tailLength (k + 1)
          (by simpa [wordSize, Nat.mul_succ, Nat.add_assoc] using hlater) htails
        simpa [Nat.add_assoc, Nat.add_comm 1 j] using hnext j (by simpa using hj)

/-- A static value read from where it is placed: its own head word. -/
theorem placed_static {base index : Nat} {t : Token} (hw : Within enc data)
    (hstatic : t.isDynamic = false) (h : Placed enc base index t) :
    (slice data (base + wordSize * index) wordSize).run = .ok (.ok (encodeStatic t)) := by
  rw [Placed, if_neg (by simp [hstatic])] at h
  have hend := end_le_of_standing h (by simp [← List.length_pos_iff])
  rw [length_encodeStatic] at hend
  exact slice_at hw h (length_encodeStatic t) hend

/-- A dynamic value read from where it is placed: the offset in its head, then its contents
standing within `enc`. -/
theorem placed_dynamic {base index : Nat} {t : Token} (hw : Within enc data)
    (hdyn : t.isDynamic = true) (h : Placed enc base index t) :
    ∃ offset, (readLength data (base + wordSize * index)).run = .ok (.ok offset) ∧
      base + offset + (encodeContents t).length ≤ enc.length ∧
      encodeContents t <+: enc.drop (base + offset) := by
  rw [Placed, if_pos hdyn] at h
  obtain ⟨offset, hhead, hcontents⟩ := h
  have hend := end_le_of_standing hcontents (encodeContents_ne_nil t)
  have hpos : 0 < (encodeContents t).length := List.length_pos_iff.2 (encodeContents_ne_nil t)
  have hfits := hw.fits
  exact ⟨offset, readLength_at hw hhead (by omega), hend, hcontents⟩

/-- Bytes padded behind their length word read back from where they stand. -/
theorem slice_encodePadded {bytes : Bytes} {start : Nat} (hw : Within enc data)
    (h : encodePadded bytes <+: enc.drop start)
    (hend : start + (encodePadded bytes).length ≤ enc.length) :
    (readLength data start).run = .ok (.ok bytes.length) ∧
      (slice data (U64.saturatingAdd start wordSize) bytes.length).run = .ok (.ok bytes) := by
  rw [encodePadded] at h hend
  simp only [List.append_assoc] at h hend
  obtain ⟨hlength, hrest⟩ := prefix_drop_append h
  obtain ⟨hbytes, -⟩ := prefix_drop_append hrest
  simp only [List.length_append, Word.length_toBytes] at hend hbytes
  have hfits := hw.fits
  refine ⟨readLength_at hw hlength (by omega), ?_⟩
  rw [saturatingAdd_of_le (by simp only [wordSize]; omega)]
  exact slice_at hw hbytes rfl (by simp only [wordSize]; omega)

/-- The offset of a dynamic value and its length word, read from where it is placed: the
start of its contents and the length in their first word, with no saturation on the way. -/
theorem placed_padded {bytes : Bytes} {base index : Nat} {t : Token} (hw : Within enc data)
    (hdyn : t.isDynamic = true) (hcontents : encodeContents t = encodePadded bytes)
    (h : Placed enc base index t) :
    ∃ start, (readLength data (base + wordSize * index)).run = .ok (.ok (start - base)) ∧
      U64.saturatingAdd base (start - base) = start ∧
      (readLength data start).run = .ok (.ok bytes.length) ∧
      (slice data (U64.saturatingAdd start wordSize) bytes.length).run = .ok (.ok bytes) := by
  obtain ⟨offset, hhead, hend, hplaced⟩ := placed_dynamic hw hdyn h
  rw [hcontents] at hend hplaced
  have hpos : 0 < (encodePadded bytes).length := by simp [encodePadded]
  have hfits := hw.fits
  refine ⟨base + offset, by simpa using hhead, ?_, slice_encodePadded hw hplaced hend⟩
  rw [Nat.add_sub_cancel_left, saturatingAdd_of_le (by omega)]

/-- Every value read back from where it is placed, by induction on its typing. -/
theorem decodeAt_placed {t : Token} {type : ParamType} (htype : t.HasType type) :
    ∀ {enc data : Bytes} {base index : Nat}, Within enc data → Placed enc base index t →
      (decodeAt type data base index).run = .ok (.ok t) := by
  induction htype with
  | address a =>
    intro enc data base index hw hplaced
    rw [decodeAt, decodeStatic, run_bind_of_ok (placed_static hw rfl hplaced)]
    simp only [encodeStatic, Address.ofBytes_toWord_toBytes]
    rfl
  | uint w =>
    intro enc data base index hw hplaced
    rw [decodeAt, decodeStatic, run_bind_of_ok (placed_static hw rfl hplaced)]
    simp only [encodeStatic, Word.ofBytes_toBytes]
    rfl
  | bool b =>
    intro enc data base index hw hplaced
    rw [decodeAt, decodeStatic, run_bind_of_ok (placed_static hw rfl hplaced), encodeStatic_bool]
    cases b <;> rfl
  | string s =>
    intro enc data base index hw hplaced
    obtain ⟨start, hhead, hstart, hlength, hslice⟩ :=
      placed_padded hw rfl (encodeContents_string s) hplaced
    rw [decodeAt, run_bind_of_ok hhead]
    simp only [hstart]
    rw [run_bind_of_ok hlength, run_bind_of_ok hslice, run_bind_of_ok (decodeUtf8_toUTF8 s)]
    rfl
  | bytes b =>
    intro enc data base index hw hplaced
    obtain ⟨start, hhead, hstart, hlength, hslice⟩ :=
      placed_padded hw rfl (encodeContents_bytes b) hplaced
    rw [decodeAt, run_bind_of_ok hhead]
    simp only [hstart]
    rw [run_bind_of_ok hlength, run_bind_of_ok hslice]
    rfl
  | @array items item _ ih =>
    intro enc data base index hw hplaced
    obtain ⟨offset, hhead, hend, hcontents⟩ := placed_dynamic hw rfl hplaced
    have hfits := hw.fits
    have hdata := hw.isPrefix.length_le
    rw [encodeContents] at hend hcontents
    simp only [List.append_assoc] at hcontents
    obtain ⟨hlength, hparts⟩ := prefix_drop_append hcontents
    obtain ⟨hheads, htails⟩ := prefix_drop_append hparts
    simp only [List.length_append, Word.length_toBytes, length_encodeParts_heads] at hend
    have hstart : U64.saturatingAdd base offset = base + offset := saturatingAdd_of_le (by omega)
    have hitems : U64.saturatingAdd (base + offset) wordSize = base + offset + 32 :=
      saturatingAdd_of_le (by simp only [wordSize]; omega)
    have hplacedItems := @encodeParts_placed enc (base + offset + 32) _ items 0 0
      (by simpa using hheads) (by simpa [Nat.add_assoc, Word.length_toBytes] using htails)
    have hroom : ¬items.length > data.length / wordSize := by
      simp only [wordSize] at hend ⊢
      omega
    have hcount : items.length ≤ u64Max := by
      simp only [wordSize] at hend
      omega
    have hread : ((List.range items.length).mapM fun i =>
        decodeAt item data (base + offset + 32) i).run = .ok (.ok items) :=
      mapM_of_getElem _ items (by simp) fun j hj hi => by
        simpa using ih _ (List.getElem_mem hi) hw (by simpa using hplacedItems j hi)
    rw [decodeAt, run_bind_of_ok hhead, hstart,
      run_bind_of_ok (readLength_at hw hlength hcount)]
    simp only [hroom, if_false, hitems]
    rw [run_bind_of_ok hread]
    rfl

/-! ### Decoding an encoding -/

/-- Decoding the encoding of well-typed values gives them back, whatever bytes follow it. -/
theorem decode_encode_append {tokens : List Token} {types : List ParamType}
    (htypes : List.Forall₂ Token.HasType tokens types) (suffix : Bytes)
    (hfits : (encode tokens).length ≤ u64Max) :
    (decode types (encode tokens ++ suffix)).run = .ok (.ok tokens) := by
  have hlen : types.length = tokens.length := htypes.length_eq.symm
  have hw : Within (encode tokens) (encode tokens ++ suffix) := ⟨List.prefix_append _ _, hfits⟩
  have hheads : (encodeParts (wordSize * tokens.length) 0 tokens).1 <+:
      (encode tokens).drop (0 + wordSize * 0) :=
    ⟨(encodeParts (wordSize * tokens.length) 0 tokens).2, by simp [encode]⟩
  have htails : (encodeParts (wordSize * tokens.length) 0 tokens).2 <+:
      (encode tokens).drop (0 + (wordSize * tokens.length + 0)) :=
    ⟨[], by simp [encode]⟩
  have hplaced := encodeParts_placed tokens 0 0 hheads htails
  refine mapM_of_getElem _ tokens (by simp [hlen]) fun j hj hi => ?_
  have htype : tokens[j].HasType types[j] := by
    simpa using htypes.get hi (by omega)
  rw [List.getElem_zipIdx]
  exact decodeAt_placed htype hw (by simpa using hplaced j hi)

/-- The arguments of a call read back from its calldata after the four bytes of the
selector. -/
theorem decode_calldata_args {call : Call} {types : List ParamType}
    (htypes : List.Forall₂ Token.HasType call.args types) (hfits : call.calldata.length ≤ u64Max) :
    (decode types (call.calldata.drop 4)).run = .ok (.ok call.args) := by
  have hselector : call.selectorBytes.length = 4 := by
    simp [Call.selectorBytes, selector]
  have hdrop : call.calldata.drop 4 = encode call.args ++ [] := by
    rw [Call.calldata, ← hselector, List.drop_left, List.append_nil]
  have hlength : (encode call.args).length ≤ u64Max := by
    rw [← List.append_nil (encode call.args), ← hdrop, List.length_drop]
    omega
  rw [hdrop]
  exact decode_encode_append htypes [] hlength

/-- Decoding inverts encoding for well-typed values, whatever bytes follow the encoding; in
particular the arguments of a call read back from its calldata past the selector. -/
theorem decode_inverts_encode :
    (∀ (tokens : List Token) (types : List ParamType) (suffix : Bytes),
      List.Forall₂ Token.HasType tokens types → (encode tokens).length ≤ u64Max →
        (decode types (encode tokens ++ suffix)).run = .ok (.ok tokens)) ∧
    (∀ (call : Call) (types : List ParamType),
      List.Forall₂ Token.HasType call.args types → call.calldata.length ≤ u64Max →
        (decode types (call.calldata.drop 4)).run = .ok (.ok call.args)) :=
  ⟨fun _ _ suffix htypes hfits => decode_encode_append htypes suffix hfits,
    fun _ _ htypes hfits => decode_calldata_args htypes hfits⟩

/-- A nested listing with an empty array and a two-byte character, followed by a stray byte,
reads back; so do the arguments of a batch mint of two tokens. -/
theorem nested_listing_reads_back :
    List.Forall₂ Token.HasType
        [.uint (Word.ofNatWrap 7), .array [.array [.string "é", .string ""], .array []],
          .bytes [1, 2, 3]]
        [.uint, .array (.array .string), .bytes] ∧
      (encode [.uint (Word.ofNatWrap 7), .array [.array [.string "é", .string ""], .array []],
        .bytes [1, 2, 3]]).length ≤ u64Max ∧
      (decode [.uint, .array (.array .string), .bytes]
        (encode [.uint (Word.ofNatWrap 7), .array [.array [.string "é", .string ""], .array []],
          .bytes [1, 2, 3]] ++ [0xff])).run =
        .ok (.ok [.uint (Word.ofNatWrap 7), .array [.array [.string "é", .string ""], .array []],
          .bytes [1, 2, 3]]) ∧
    List.Forall₂ Token.HasType
        (Contract.batchMint [Address.ofNatWrap 1, Address.ofNatWrap 2] ["ipfs://a", "ipfs://b"]).args
        [.array .address, .array .string] ∧
      (Contract.batchMint [Address.ofNatWrap 1, Address.ofNatWrap 2]
        ["ipfs://a", "ipfs://b"]).calldata.length ≤ u64Max ∧
      (decode [.array .address, .array .string]
        ((Contract.batchMint [Address.ofNatWrap 1, Address.ofNatWrap 2]
          ["ipfs://a", "ipfs://b"]).calldata.drop 4)).run =
        .ok (.ok (Contract.batchMint [Address.ofNatWrap 1, Address.ofNatWrap 2]
          ["ipfs://a", "ipfs://b"]).args) := by
  have hlisting : List.Forall₂ Token.HasType
      [.uint (Word.ofNatWrap 7), .array [.array [.string "é", .string ""], .array []],
        .bytes [1, 2, 3]]
      [.uint, .array (.array .string), .bytes] := by
    refine .cons (.uint _) (.cons (.array ?_) (.cons (.bytes _) .nil))
    simp [Token.HasType.string, Token.HasType.array]
  have hbatch : List.Forall₂ Token.HasType
      (Contract.batchMint [Address.ofNatWrap 1, Address.ofNatWrap 2] ["ipfs://a", "ipfs://b"]).args
      [.array .address, .array .string] := by
    refine .cons (.array ?_) (.cons (.array ?_) .nil) <;>
      simp [Token.HasType.address, Token.HasType.string]
  have hfits : (encode [.uint (Word.ofNatWrap 7),
      .array [.array [.string "é", .string ""], .array []], .bytes [1, 2, 3]]).length ≤
      u64Max := by
    decide +kernel
  have hcalldata : (Contract.batchMint [Address.ofNatWrap 1, Address.ofNatWrap 2]
      ["ipfs://a", "ipfs://b"]).calldata.length ≤ u64Max := by
    simp only [Call.calldata, Call.selectorBytes, selector, List.length_append, List.length_take,
      Keccak.length_hash]
    decide +kernel
  exact ⟨hlisting, hfits, decode_inverts_encode.1 _ _ _ hlisting hfits,
    hbatch, hcalldata, decode_inverts_encode.2 _ _ hbatch hcalldata⟩

end Abi

end NftProbe
