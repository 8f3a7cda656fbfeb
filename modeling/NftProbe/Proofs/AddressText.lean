import NftProbe.Proofs.Abi.RoundTrip

/-!
# Reading and writing addresses as text

`Address.parse` accepts exactly the texts that spell an address: forty hexadecimal digits, in
either case, after at most one `0x` or `0X` (`Address.Spells`). The address it reads is then
written back by `Address.toHex` as `0x` and the same digits in lowercase, and every address
written so reads back as itself (`parse_reads_hex_spelling`). A text it refuses is named in the
error.

The digits go through three stages, and the proof follows them. The prefix is stripped
(`toList_digitText`); the rest is taken as UTF-8 bytes, and a byte that is a hex digit is an
ASCII character, so the bytes are the characters one for one
(`flatMap_utf8EncodeChar_of_lt`); the pairs of digits are read into bytes (`decodeDigits_eq_ok`,
`decodeDigits_ok_of_digits`), and writing a byte gives its two digits in lowercase
(`digitValue?_eq_some`).
-/

set_option autoImplicit false

namespace NftProbe

/-! ### Characters -/

theorem Char.toNat_ofNat_of_lt {n : Nat} (h : n < 0xd800) : (Char.ofNat n).toNat = n := by
  have hvalid : n.isValidChar := Or.inl h
  rw [Char.ofNat, dif_pos hvalid]
  rfl

theorem Char.toNat_toUInt8 (c : Char) : c.toUInt8.toNat = c.toNat % 256 :=
  UInt32.toNat_toUInt8 c.val

/-- An ASCII character is the character of its byte. -/
theorem Char.ofNat_toUInt8 {c : Char} (h : c.toNat < 128) : Char.ofNat c.toUInt8.toNat = c := by
  rw [Char.toNat_toUInt8, Nat.mod_eq_of_lt (by omega), Char.ofNat_toNat]

theorem Char.toNat_toLower (c : Char) :
    c.toLower.toNat = if 65 ≤ c.toNat ∧ c.toNat ≤ 90 then c.toNat + 32 else c.toNat := by
  have hval : c.val.toNat = c.toNat := rfl
  have hA : 'A'.val.toNat = 65 := rfl
  have hZ : 'Z'.val.toNat = 90 := rfl
  have hshift : ('a'.val - 'A'.val).toNat = 32 := rfl
  unfold Char.toLower
  split
  · rename_i h
    simp only [ge_iff_le, UInt32.le_iff_toNat_le, hval, hA, hZ] at h
    rw [Char.toNat_mk, UInt32.toNat_add, hval, hshift, if_pos h]
    omega
  · rename_i h
    simp only [ge_iff_le, UInt32.le_iff_toNat_le, hval, hA, hZ] at h
    rw [if_neg h]

theorem Char.isHexDigit_iff (c : Char) :
    c.isHexDigit ↔ (48 ≤ c.toNat ∧ c.toNat ≤ 57) ∨ (97 ≤ c.toNat ∧ c.toNat ≤ 102) ∨
      (65 ≤ c.toNat ∧ c.toNat ≤ 70) := by
  have hval : c.val.toNat = c.toNat := rfl
  simp only [Char.isHexDigit, Char.isDigit, ge_iff_le, Bool.or_eq_true, Bool.and_eq_true,
    decide_eq_true_eq, UInt32.le_iff_toNat_le, hval, show '0'.val.toNat = 48 from rfl,
    show '9'.val.toNat = 57 from rfl, show 'a'.val.toNat = 97 from rfl,
    show 'f'.val.toNat = 102 from rfl, show 'A'.val.toNat = 65 from rfl,
    show 'F'.val.toNat = 70 from rfl, or_assoc]

theorem Char.toNat_lt_of_isHexDigit {c : Char} (h : c.isHexDigit) : c.toNat < 128 := by
  rw [Char.isHexDigit_iff] at h
  omega

/-! ### Text as UTF-8 bytes -/

theorem String.toUTF8_toList (s : String) :
    s.toUTF8.toList = s.toList.flatMap String.utf8EncodeChar := by
  rw [String.toUTF8_eq_toByteArray, ← String.utf8Encode_toList, List.utf8Encode,
    ByteArray.toList_eq, List.toList_data_toByteArray]

theorem utf8EncodeChar_of_lt {c : Char} (h : c.toNat < 128) :
    String.utf8EncodeChar c = [c.toUInt8] := by
  have hsize : c.utf8Size = 1 := by
    rw [Char.utf8Size_eq_one_iff, UInt32.le_iff_toNat_le]
    exact Nat.le_of_lt_succ h
  rw [String.utf8EncodeChar_eq_singleton hsize, Char.toUInt8_val]

/-- A character whose UTF-8 bytes are all below 128 is ASCII: the first byte of a longer
encoding has its top bit set. -/
theorem lt_of_utf8EncodeChar {c : Char} (h : ∀ b ∈ String.utf8EncodeChar c, b.toNat < 128) :
    c.toNat < 128 := by
  have hval : c.val.toNat = c.toNat := rfl
  have hfirst := h _ (List.head_mem String.utf8EncodeChar_ne_nil)
  unfold String.utf8EncodeChar at hfirst
  simp only [hval] at hfirst
  split at hfirst
  · omega
  · split at hfirst <;> (try split at hfirst) <;>
      simp only [List.head_cons, UInt8.toNat_ofNat'] at hfirst <;> omega

/-- Text whose UTF-8 bytes are all below 128 is ASCII, one byte per character. -/
theorem flatMap_utf8EncodeChar_of_lt {cs : List Char}
    (h : ∀ b ∈ cs.flatMap String.utf8EncodeChar, b.toNat < 128) :
    (∀ c ∈ cs, c.toNat < 128) ∧ cs.flatMap String.utf8EncodeChar = cs.map Char.toUInt8 := by
  induction cs with
  | nil => simp
  | cons c rest ih =>
    simp only [List.flatMap_cons, List.mem_append] at h
    have hc := lt_of_utf8EncodeChar fun b hb => h b (.inl hb)
    obtain ⟨hrest, heq⟩ := ih fun b hb => h b (.inr hb)
    refine ⟨?_, ?_⟩
    · simpa [hc] using hrest
    · rw [List.flatMap_cons, heq, utf8EncodeChar_of_lt hc, List.map_cons, List.singleton_append]

theorem flatMap_utf8EncodeChar_of_ascii {cs : List Char} (h : ∀ c ∈ cs, c.toNat < 128) :
    cs.flatMap String.utf8EncodeChar = cs.map Char.toUInt8 := by
  induction cs with
  | nil => rfl
  | cons c rest ih =>
    rw [List.flatMap_cons, utf8EncodeChar_of_lt (h c List.mem_cons_self),
      ih fun c' hc' => h c' (List.mem_cons_of_mem c hc'), List.map_cons, List.singleton_append]

namespace Hex

/-! ### Hex digits as bytes -/

/-- The two lowercase digits of a byte, high half first. -/
def byteDigits (byte : UInt8) : List Char :=
  [digit (byte.toNat / 16), digit (byte.toNat % 16)]

theorem toList_encode (bytes : Bytes) : (encode bytes).toList = bytes.flatMap byteDigits := by
  rw [encode, String.toList_ofList]
  rfl

theorem length_flatMap_byteDigits (bytes : Bytes) :
    (bytes.flatMap byteDigits).length = 2 * bytes.length := by
  induction bytes with
  | nil => rfl
  | cons byte rest ih =>
    rw [List.flatMap_cons, List.length_append, ih, byteDigits, List.length_cons, List.length_cons,
      List.length_nil, List.length_cons]
    omega

theorem toNat_digit {v : Nat} (hv : v < 16) :
    (digit v).toNat = if v < 10 then 48 + v else 87 + v := by
  unfold digit
  split <;> exact Char.toNat_ofNat_of_lt (by omega)

theorem isHexDigit_digit {v : Nat} (hv : v < 16) : (digit v).isHexDigit := by
  have hd := toNat_digit hv
  rw [Char.isHexDigit_iff]
  split at hd <;> omega

/-- A byte read as a digit is an ASCII character, and the digit written for its value is that
character in lowercase. -/
theorem digitValue?_eq_some {b : UInt8} {v : Nat} (h : digitValue? b = some v) :
    b.toNat < 128 ∧ v < 16 ∧ digit v = (Char.ofNat b.toNat).toLower := by
  have hlt : b.toNat < 256 := b.toNat_lt
  have hb : (Char.ofNat b.toNat).toNat = b.toNat := Char.toNat_ofNat_of_lt (by omega)
  unfold digitValue? at h
  simp only [UInt8.le_iff_toNat_le, UInt8.reduceToNat] at h
  split at h <;> (try split at h) <;> (try split at h) <;> cases h
  all_goals
    refine ⟨by omega, by omega, Char.toNat_inj.mp ?_⟩
    rw [toNat_digit (by omega), Char.toNat_toLower, hb]
    split <;> split <;> omega

theorem isSome_digitValue? (b : UInt8) :
    (digitValue? b).isSome = (Char.ofNat b.toNat).isHexDigit := by
  have hlt : b.toNat < 256 := b.toNat_lt
  have hb : (Char.ofNat b.toNat).toNat = b.toNat := Char.toNat_ofNat_of_lt (by omega)
  rw [Bool.eq_iff_iff, Char.isHexDigit_iff, hb]
  unfold digitValue?
  simp only [UInt8.le_iff_toNat_le, UInt8.reduceToNat]
  split <;> (try split) <;> (try split) <;> simp <;> omega

/-- Each digit written reads back as its value. -/
theorem digitValue?_digit {v : Nat} (hv : v < 16) : digitValue? (digit v).toUInt8 = some v := by
  have hd := toNat_digit hv
  have hbyte : (digit v).toUInt8.toNat = (digit v).toNat := by
    rw [Char.toNat_toUInt8]
    split at hd <;> omega
  unfold digitValue?
  simp only [UInt8.le_iff_toNat_le, UInt8.reduceToNat, hbyte, hd]
  split <;> (try split) <;> (try split) <;> (try split) <;> simp <;> omega

/-! ### Pairs of digits -/

/-- Digits that read: each byte is a digit, and writing the bytes read gives the digits back in
lowercase. -/
theorem decodeDigits_eq_ok {position : Nat} {raw : List UInt8} {bytes : Bytes}
    (h : decodeDigits position raw = .ok bytes) :
    (∀ b ∈ raw, (digitValue? b).isSome) ∧
      bytes.flatMap byteDigits = raw.map fun b => (Char.ofNat b.toNat).toLower := by
  fun_induction decodeDigits position raw generalizing bytes with
  | case1 => cases h; simp
  | case2 => cases h
  | case3 => cases h
  | case4 => cases h
  | case5 position high low rest h l hl hh ih =>
    simp only [bind, Except.bind] at h
    cases htail : decodeDigits (position + 2) rest with
    | error e => rw [htail] at h; cases h
    | ok tail =>
      rw [htail] at h
      cases h
      obtain ⟨hhigh, hh16, hhdigit⟩ := digitValue?_eq_some hh
      obtain ⟨hlow, hl16, hldigit⟩ := digitValue?_eq_some hl
      obtain ⟨hrest, hdigits⟩ := ih htail
      have hbyte : (UInt8.ofNat (16 * h + l)).toNat = 16 * h + l := by
        rw [UInt8.toNat_ofNat', Nat.mod_eq_of_lt (by omega)]
      refine ⟨?_, ?_⟩
      · simp only [List.mem_cons, forall_eq_or_imp, hh, hl, Option.isSome_some, true_and]
        exact hrest
      · rw [List.flatMap_cons, hdigits, byteDigits, hbyte,
          show (16 * h + l) / 16 = h by omega, show (16 * h + l) % 16 = l by omega,
          hhdigit, hldigit]
        rfl

/-- An even number of digit bytes reads. -/
theorem decodeDigits_ok_of_digits (position : Nat) {raw : List UInt8}
    (hdigits : ∀ b ∈ raw, (digitValue? b).isSome) (heven : raw.length % 2 = 0) :
    ∃ bytes, decodeDigits position raw = .ok bytes := by
  fun_induction decodeDigits position raw with
  | case1 => exact ⟨[], rfl⟩
  | case2 => simp at heven
  | case3 position high low rest hhigh =>
    simp [hhigh] at hdigits
  | case4 position high low rest h hlow hhigh =>
    simp [hlow] at hdigits
  | case5 position high low rest h l hlow hhigh ih =>
    obtain ⟨tail, htail⟩ := ih (fun b hb => hdigits b (by simp [hb]))
      (by simp only [List.length_cons] at heven; omega)
    exact ⟨UInt8.ofNat (16 * h + l) :: tail, by simp [htail, bind, Except.bind, pure,
      Except.pure]⟩

/-- The digits written for bytes read back as those bytes. -/
theorem decodeDigits_byteDigits (position : Nat) (bytes : Bytes) :
    decodeDigits position ((bytes.flatMap byteDigits).map Char.toUInt8) = .ok bytes := by
  induction bytes generalizing position with
  | nil => rfl
  | cons byte rest ih =>
    have hlt : byte.toNat < 256 := byte.toNat_lt
    have hbyte : UInt8.ofNat (16 * (byte.toNat / 16) + byte.toNat % 16) = byte := by
      rw [show 16 * (byte.toNat / 16) + byte.toNat % 16 = byte.toNat by omega, UInt8.ofNat_toNat]
    simp only [List.flatMap_cons, byteDigits, List.cons_append, List.nil_append, List.map_cons]
    rw [decodeDigits, digitValue?_digit (by omega), digitValue?_digit (by omega)]
    simp only [ih, bind, Except.bind, pure, Except.pure, hbyte]

/-! ### Hex text -/

/-- Text that reads as hex is hex digits, and the bytes read are written as those digits in
lowercase. -/
theorem decode_eq_ok {text : String} {bytes : Bytes} (h : decode text = .ok bytes) :
    (∀ c ∈ text.toList, c.isHexDigit) ∧
      bytes.flatMap byteDigits = text.toList.map Char.toLower := by
  unfold decode at h
  dsimp only at h
  split at h
  · cases h
  · rw [String.toUTF8_toList] at h
    obtain ⟨hdigits, hwritten⟩ := decodeDigits_eq_ok h
    obtain ⟨hlt, hbytes⟩ := flatMap_utf8EncodeChar_of_lt fun b hb =>
      (digitValue?_eq_some (Option.get_mem (hdigits b hb))).1
    rw [hbytes] at hdigits hwritten
    refine ⟨fun c hc => ?_, ?_⟩
    · have hsome := hdigits _ (List.mem_map_of_mem hc)
      rwa [isSome_digitValue?, Char.ofNat_toUInt8 (hlt c hc)] at hsome
    · rw [hwritten, List.map_map]
      exact List.map_congr_left fun c hc => by
        simp only [Function.comp_apply, Char.ofNat_toUInt8 (hlt c hc)]

/-- Text that reads as hex has two digits per byte read. -/
theorem length_of_decode_eq_ok {text : String} {bytes : Bytes} (h : decode text = .ok bytes) :
    text.toList.length = 2 * bytes.length := by
  have hlength := congrArg List.length (decode_eq_ok h).2
  rw [length_flatMap_byteDigits, List.length_map] at hlength
  exact hlength.symm

/-- An even number of hex digits reads. -/
theorem decode_ok_of_hexDigits {text : String} (hdigits : ∀ c ∈ text.toList, c.isHexDigit)
    (heven : text.toList.length % 2 = 0) : ∃ bytes, decode text = .ok bytes := by
  have hascii : ∀ c ∈ text.toList, c.toNat < 128 := fun c hc =>
    Char.toNat_lt_of_isHexDigit (hdigits c hc)
  have hraw : text.toUTF8.toList = text.toList.map Char.toUInt8 := by
    rw [String.toUTF8_toList, flatMap_utf8EncodeChar_of_ascii hascii]
  have hbytes : ∀ b ∈ text.toUTF8.toList, (digitValue? b).isSome := by
    rw [hraw]
    intro b hb
    obtain ⟨c, hc, rfl⟩ := List.mem_map.mp hb
    rw [isSome_digitValue?, Char.ofNat_toUInt8 (hascii c hc)]
    exact hdigits c hc
  have hlength : text.toUTF8.toList.length % 2 = 0 := by
    rw [hraw, List.length_map]
    exact heven
  unfold decode
  dsimp only
  rw [if_neg (by omega)]
  exact decodeDigits_ok_of_digits 0 hbytes hlength

/-- Hex text written for bytes reads back as those bytes. -/
theorem decode_encode (bytes : Bytes) : decode (encode bytes) = .ok bytes := by
  have hascii : ∀ c ∈ (encode bytes).toList, c.toNat < 128 := by
    rw [toList_encode]
    intro c hc
    obtain ⟨byte, -, hc⟩ := List.mem_flatMap.mp hc
    have hlt : byte.toNat < 256 := byte.toNat_lt
    simp only [byteDigits, List.mem_cons, List.not_mem_nil, or_false] at hc
    rcases hc with rfl | rfl
    · exact Char.toNat_lt_of_isHexDigit (isHexDigit_digit (by omega))
    · exact Char.toNat_lt_of_isHexDigit (isHexDigit_digit (by omega))
  have hraw : (encode bytes).toUTF8.toList = ((bytes.flatMap byteDigits).map Char.toUInt8) := by
    rw [String.toUTF8_toList, flatMap_utf8EncodeChar_of_ascii hascii, toList_encode]
  have hlength : ((bytes.flatMap byteDigits).map Char.toUInt8).length % 2 = 0 := by
    rw [List.length_map, length_flatMap_byteDigits]
    omega
  unfold decode
  dsimp only
  rw [hraw, if_neg (by omega), decodeDigits_byteDigits]

end Hex

/-! ### Addresses -/

namespace Bytes

theorem toNat_lt_pow (bytes : Bytes) : toNat bytes < 256 ^ bytes.length := by
  induction bytes using List.reverseRecOn with
  | nil => simp [toNat]
  | append_singleton bytes byte ih =>
    have hbyte : byte.toNat < 256 := byte.toNat_lt
    rw [toNat_append_byte, List.length_append, List.length_singleton, pow_succ]
    nlinarith

theorem ofNat_toNat (bytes : Bytes) : ofNat bytes.length (toNat bytes) = bytes := by
  induction bytes using List.reverseRecOn with
  | nil => rfl
  | append_singleton bytes byte ih =>
    have hbyte : byte.toNat < 256 := byte.toNat_lt
    rw [toNat_append_byte, List.length_append, List.length_singleton, ofNat,
      show (toNat bytes * 256 + byte.toNat) / 256 = toNat bytes by omega,
      show (toNat bytes * 256 + byte.toNat) % 256 = byte.toNat by omega, ih, UInt8.ofNat_toNat]

end Bytes

namespace Address

theorem toBytes_ofBytes {bytes : Bytes} (h : bytes.length = 20) :
    (ofBytes bytes).toBytes = bytes := by
  have hbound : (256 : Nat) ^ 20 = addressBound := rfl
  have hlt := Bytes.toNat_lt_pow bytes
  rw [h, hbound] at hlt
  show Bytes.ofNat 20 (Bytes.toNat bytes % addressBound) = bytes
  rw [Nat.mod_eq_of_lt hlt, ← h, Bytes.ofNat_toNat]

theorem ofBytes_toBytes (a : Address) : ofBytes a.toBytes = a := by
  have hbound : (256 : Nat) ^ 20 = addressBound := rfl
  obtain ⟨n, hn⟩ := a
  simp only [ofBytes, toBytes, Bytes.toNat_ofNat, hbound, Nat.mod_eq_of_lt hn, ofNatWrap]

@[simp] theorem length_toBytes (a : Address) : a.toBytes.length = 20 := by
  rw [toBytes, Bytes.length_ofNat]

theorem toList_toHex (a : Address) :
    a.toHex.toList = '0' :: 'x' :: a.toBytes.flatMap Hex.byteDigits := by
  rw [toHex, Hex.encodePrefixed, String.toList_append, Hex.toList_encode,
    show "0x".toList = ['0', 'x'] from rfl, List.cons_append, List.cons_append, List.nil_append]

/-- `text` spells an address as the forty hexadecimal digits `digits`, of either case, after at
most one `0x` or `0X`. -/
def Spells (text : String) (digits : List Char) : Prop :=
  digits.length = 40 ∧ (∀ c ∈ digits, c.isHexDigit) ∧
    (text.toList = digits ∨ text.toList = '0' :: 'x' :: digits ∨
      text.toList = '0' :: 'X' :: digits)

/-- The digits `parse` reads: the text after one leading `0x`, or else after one leading `0X`. -/
def digitText (text : String) : String :=
  if text.startsWith "0x" then Hex.stripPrefix text "0x" else Hex.stripPrefix text "0X"

theorem toList_stripPrefix (text prefixText : String) :
    (Hex.stripPrefix text prefixText).toList =
      if prefixText.toList <+: text.toList then text.toList.drop prefixText.toList.length
      else text.toList := by
  unfold Hex.stripPrefix
  by_cases h : prefixText.toList <+: text.toList
  · rw [if_pos (String.startsWith_string_iff.mpr h), if_pos h, String.Slice.toString_eq,
      String.toList_copy_drop, String.length_toList]
  · rw [if_neg (mt String.startsWith_string_iff.mp h), if_neg h]

/-- The digits `parse` reads: the text less a leading `0x` or `0X`, if it has one. -/
theorem toList_digitText (text : String) :
    (digitText text).toList =
      if ['0', 'x'] <+: text.toList ∨ ['0', 'X'] <+: text.toList then text.toList.drop 2
      else text.toList := by
  have h0x : "0x".toList = ['0', 'x'] := rfl
  have h0X : "0X".toList = ['0', 'X'] := rfl
  unfold digitText
  split
  · rename_i hx
    rw [String.startsWith_string_iff, h0x] at hx
    rw [toList_stripPrefix, h0x, if_pos hx, if_pos (.inl hx)]
    rfl
  · rename_i hx
    rw [String.startsWith_string_iff, h0x] at hx
    rw [toList_stripPrefix, h0X]
    by_cases hX : ['0', 'X'] <+: text.toList
    · rw [if_pos hX, if_pos (.inr hX)]
      rfl
    · rw [if_neg hX, if_neg (by tauto)]

/-- The text is the digits `parse` reads, after at most one `0x` or `0X`. -/
theorem toList_digitText_cases (text : String) :
    text.toList = (digitText text).toList ∨
      text.toList = '0' :: 'x' :: (digitText text).toList ∨
      text.toList = '0' :: 'X' :: (digitText text).toList := by
  rw [toList_digitText]
  by_cases hx : ['0', 'x'] <+: text.toList
  · obtain ⟨rest, hrest⟩ := hx
    rw [if_pos (.inl ⟨rest, hrest⟩), ← hrest]
    exact .inr (.inl rfl)
  · by_cases hX : ['0', 'X'] <+: text.toList
    · obtain ⟨rest, hrest⟩ := hX
      rw [if_pos (.inr ⟨rest, hrest⟩), ← hrest]
      exact .inr (.inr rfl)
    · rw [if_neg (by tauto)]
      exact .inl rfl

/-- A spelled address's digits are what `parse` reads: `x` and `X` are no hex digits, so bare
digits never look like a prefix. -/
theorem toList_digitText_of_spells {text : String} {digits : List Char}
    (h : Spells text digits) : (digitText text).toList = digits := by
  obtain ⟨-, hhex, hbare | hx | hX⟩ := h
  · have hsecond : ∀ c, ['0', c] <+: text.toList → c.isHexDigit := by
      rintro c ⟨rest, hrest⟩
      rw [hbare] at hrest
      exact hhex c (by rw [← hrest]; simp)
    have hnot : ¬(['0', 'x'] <+: text.toList ∨ ['0', 'X'] <+: text.toList) := by
      rintro (hp | hp)
      · exact absurd (hsecond 'x' hp) (by decide)
      · exact absurd (hsecond 'X' hp) (by decide)
    rw [toList_digitText, if_neg hnot, hbare]
  · have hp : ['0', 'x'] <+: text.toList := ⟨digits, hx.symm⟩
    rw [toList_digitText, if_pos (.inl hp), hx]
    rfl
  · have hp : ['0', 'X'] <+: text.toList := ⟨digits, hX.symm⟩
    rw [toList_digitText, if_pos (.inr hp), hX]
    rfl

/-- `parse` answers with the address of the bytes its digits read, when there are twenty. -/
theorem parse_eq_ok_iff (text : String) (a : Address) :
    parse text = .ok a ↔
      ∃ bytes, Hex.decode (digitText text) = .ok bytes ∧ bytes.length = 20 ∧
        ofBytes bytes = a := by
  unfold parse
  dsimp only
  rw [show (if text.startsWith "0x" then Hex.stripPrefix text "0x"
    else Hex.stripPrefix text "0X") = digitText text from rfl]
  cases hdecode : Hex.decode (digitText text) with
  | error e => simp
  | ok bytes => by_cases hlength : bytes.length = 20 <;> simp [hlength]

/-- A text `parse` refuses is named in its error. -/
theorem parse_error (text : String) {e : Abi.AbiError} (h : parse text = .error e) :
    e = .invalidAddress text := by
  unfold parse at h
  dsimp only at h
  split at h
  · split at h
    · cases h
    · cases h
      rfl
  · cases h
    rfl

/-- The text an address is written as reads back as the address. -/
theorem parse_toHex (a : Address) : parse a.toHex = .ok a := by
  have hdigits : (digitText a.toHex).toList = (Hex.encode a.toBytes).toList := by
    have hp : ['0', 'x'] <+: a.toHex.toList := by
      refine ⟨a.toBytes.flatMap Hex.byteDigits, ?_⟩
      rw [toList_toHex, List.cons_append, List.cons_append, List.nil_append]
    rw [toList_digitText, if_pos (.inl hp), toList_toHex, Hex.toList_encode, List.drop_succ_cons,
      List.drop_succ_cons, List.drop_zero]
  have hdecode : Hex.decode (digitText a.toHex) = .ok a.toBytes := by
    rw [String.toList_inj.mp hdigits, Hex.decode_encode]
  rw [parse_eq_ok_iff]
  exact ⟨a.toBytes, hdecode, length_toBytes a, ofBytes_toBytes a⟩

theorem toHex_injective {a b : Address} (h : a.toHex = b.toHex) : a = b := by
  have hb := parse_toHex b
  rw [← h, parse_toHex] at hb
  cases hb
  rfl

/-- What `parse` reads is spelled by the text, and writing it gives the digits in lowercase. -/
theorem spells_of_parse_eq_ok {text : String} {a : Address} (h : parse text = .ok a) :
    Spells text (digitText text).toList ∧
      a.toHex.toList = '0' :: 'x' :: (digitText text).toList.map Char.toLower := by
  obtain ⟨bytes, hdecode, hlength, rfl⟩ := (parse_eq_ok_iff text a).mp h
  obtain ⟨hhex, hwritten⟩ := Hex.decode_eq_ok hdecode
  have hcount : (digitText text).toList.length = 40 := by
    rw [Hex.length_of_decode_eq_ok hdecode, hlength]
  refine ⟨⟨hcount, hhex, toList_digitText_cases text⟩, ?_⟩
  rw [toList_toHex, toBytes_ofBytes hlength, hwritten]

/-- Spelled text reads as an address. -/
theorem parse_ok_of_spells {text : String} {digits : List Char} (h : Spells text digits) :
    ∃ a, parse text = .ok a := by
  have hdigits := toList_digitText_of_spells h
  obtain ⟨hlength, hhex, -⟩ := h
  obtain ⟨bytes, hdecode⟩ := Hex.decode_ok_of_hexDigits
    (show ∀ c ∈ (digitText text).toList, c.isHexDigit by rw [hdigits]; exact hhex)
    (by rw [hdigits, hlength])
  have hcount : bytes.length = 20 := by
    have htwice := Hex.length_of_decode_eq_ok hdecode
    rw [hdigits, hlength] at htwice
    omega
  exact ⟨ofBytes bytes, (parse_eq_ok_iff text _).mpr ⟨bytes, hdecode, hcount, rfl⟩⟩

/-- Reading addresses from text: `parse` answers exactly for text spelling forty hex digits of
either case after at most one `0x` or `0X`, with the address that is written as `0x` and those
digits in lowercase; every address written reads back as itself; and a refused text is named in
the error. -/
theorem parse_reads_hex_spelling :
    (∀ (text : String) (a : Address), parse text = .ok a ↔
      ∃ digits, Spells text digits ∧ a.toHex = "0x" ++ String.ofList (digits.map Char.toLower)) ∧
    (∀ a : Address, parse a.toHex = .ok a) ∧
    (∀ (text : String) (e : Abi.AbiError), parse text = .error e → e = .invalidAddress text) := by
  refine ⟨fun text a => ⟨fun h => ?_, fun hspelled => ?_⟩, parse_toHex,
    fun text _ h => parse_error text h⟩
  · obtain ⟨hspells, hhex⟩ := spells_of_parse_eq_ok h
    refine ⟨_, hspells, ?_⟩
    rw [← String.toList_inj, hhex]
    simp only [String.toList_append, String.toList_ofList]
    rfl
  · obtain ⟨digits, hspells, hhex⟩ := hspelled
    obtain ⟨b, hb⟩ := parse_ok_of_spells hspells
    have hwritten := (spells_of_parse_eq_ok hb).2
    rw [toList_digitText_of_spells hspells] at hwritten
    have hsame : b.toHex = a.toHex := by
      rw [← String.toList_inj, hwritten, hhex]
      simp only [String.toList_append, String.toList_ofList]
      rfl
    rw [hb, toHex_injective hsame]

end Address

end NftProbe
