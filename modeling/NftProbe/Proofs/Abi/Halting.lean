import NftProbe.Proofs.Abi.RoundTrip

/-!
# Where decoding halts

Decoding reads offsets and lengths out of the data it is given, and every sum it forms from
them is checked or saturated, so data that does not decode is refused with an `AbiError`. One
product is not guarded: an array whose length word promises more items than the data has
words is refused with an error naming the bytes those items would need, `32 · length`, and
that product is a checked multiplication. A length of `2^59` or more still fits 64 bits, but
its byte count does not, and decoding halts there.

`decode_answers_or_overflows` says this of every list of types and every data: decoding
answers, or it halts on a multiplication overflow, one of the types is an array and the data
holds a length word of that kind (`OversizedLength`). The argument goes through the decoder
one bind at a time. The reads never halt (`slice_run_ne_error`, `readLength_run_ne_error`,
`decodeStatic_run_ne_error`, `decodeUtf8_run_ne_error`); a bind or a pass over a list halts
only where one of its parts does (`run_bind_eq_error`, `mapM_run_eq_error`); so only the
array's byte count can (`decodeAt_halts`). `oversizedLength_iff` reads the condition back, for
data shorter than 2^64 bytes, as a length word of at least `2^59`, and
`oversized_array_length_halts` is the shortest such input: two words, an offset and a length.
-/

set_option autoImplicit false

namespace NftProbe.Abi

variable {α β : Type}

/-! ### Halting through binds and lists -/

theorem run_pure_ne_error (a : α) (e : Overflow) : (pure a : Decoding α).run ≠ .error e := by
  intro h
  cases h

theorem run_throw_ne_error (err : AbiError) (e : Overflow) :
    (throw err : Decoding α).run ≠ .error e := by
  intro h
  cases h

theorem run_bind_of_halt {ε : Type} {x : ExceptT ε (Except Overflow) α}
    {f : α → ExceptT ε (Except Overflow) β} {e : Overflow}
    (hx : x.run = .error e) : (x >>= f).run = .error e := by
  simp only [ExceptT.run_bind, hx]
  rfl

/-- A bind halts where its first part halts, or where the rest halts on the first part's
value. -/
theorem run_bind_eq_error {x : Decoding α} {f : α → Decoding β} {e : Overflow}
    (h : (x >>= f).run = .error e) :
    x.run = .error e ∨ ∃ a, x.run = .ok (.ok a) ∧ (f a).run = .error e := by
  rcases hx : x.run with e' | (err | a)
  · rw [run_bind_of_halt hx] at h
    cases h
    exact .inl rfl
  · simp only [ExceptT.run_bind, hx] at h
    cases h
  · rw [run_bind_of_ok hx] at h
    exact .inr ⟨a, rfl, h⟩

/-- A pass over a list halts only where the pass over one of its elements halts. -/
theorem mapM_run_eq_error {γ : Type} {f : γ → Decoding α} {e : Overflow} {xs : List γ}
    (h : (xs.mapM f).run = .error e) : ∃ x ∈ xs, (f x).run = .error e := by
  induction xs with
  | nil => exact absurd h (run_pure_ne_error _ _)
  | cons x xs ih =>
    rw [List.mapM_cons] at h
    rcases run_bind_eq_error h with hx | ⟨a, -, hrest⟩
    · exact ⟨x, List.mem_cons_self, hx⟩
    rcases run_bind_eq_error hrest with hxs | ⟨b, -, hpure⟩
    · obtain ⟨y, hy, hfy⟩ := ih hxs
      exact ⟨y, List.mem_cons_of_mem _ hy, hfy⟩
    · exact absurd hpure (run_pure_ne_error _ _)

/-! ### The reads never halt -/

theorem slice_run_ne_error (data : Bytes) (offset length : Nat) (e : Overflow) :
    (slice data offset length).run ≠ .error e := by
  unfold slice
  split
  · exact run_throw_ne_error _ _
  · split
    · exact run_pure_ne_error _ _
    · exact run_throw_ne_error _ _

theorem readLength_run_ne_error (data : Bytes) (offset : Nat) (e : Overflow) :
    (readLength data offset).run ≠ .error e := by
  intro h
  rcases run_bind_eq_error h with hword | ⟨word, -, hvalue⟩
  · exact slice_run_ne_error _ _ _ _ hword
  · dsimp only at hvalue
    split at hvalue
    · exact run_throw_ne_error _ _ hvalue
    · exact run_pure_ne_error _ _ hvalue

theorem decodeStatic_run_ne_error (type : ParamType) (data : Bytes) (offset : Nat)
    (e : Overflow) : (decodeStatic type data offset).run ≠ .error e := by
  intro h
  rcases run_bind_eq_error h with hword | ⟨word, -, htoken⟩
  · exact slice_run_ne_error _ _ _ _ hword
  split at htoken
  · exact run_pure_ne_error _ _ htoken
  · exact run_pure_ne_error _ _ htoken
  · dsimp only at htoken
    split at htoken
    · exact run_throw_ne_error _ _ htoken
    · exact run_pure_ne_error _ _ htoken
  · exact run_throw_ne_error _ _ htoken

theorem decodeUtf8_run_ne_error (bytes : Bytes) (e : Overflow) :
    (decodeUtf8 bytes).run ≠ .error e := by
  unfold decodeUtf8
  split
  · exact run_pure_ne_error _ _
  · exact run_throw_ne_error _ _

/-- A checked product lifted into decoding halts only when it overflows. -/
theorem liftM_checkedMul_run_eq_error {a b : Nat} {e : Overflow}
    (h : (liftM (m := Except Overflow) (U64.checkedMul a b) : Decoding Nat).run = .error e) :
    e = .mul ∧ u64Max < a * b := by
  unfold U64.checkedMul at h
  split at h
  · cases h
  · rename_i hover
    cases h
    exact ⟨rfl, Nat.lt_of_not_le hover⟩

/-! ### Only an array's byte count halts -/

/-- The data holds, at some offset, a 64-bit length word promising more items than the data
has words, whose byte count, 32 bytes an item, does not fit 64 bits. -/
def OversizedLength (data : Bytes) : Prop :=
  ∃ start length, (readLength data start).run = .ok (.ok length) ∧
    data.length / wordSize < length ∧ u64Max < length * wordSize

/-- Decoding one value halts only when it is an array, on the byte count of a length word of
the data that does not fit; by induction on the type, whose only recursive case is the
array's items. -/
theorem decodeAt_halts {data : Bytes} {e : Overflow} {type : ParamType} :
    ∀ {base index : Nat}, (decodeAt type data base index).run = .error e →
      e = .mul ∧ (∃ item, type = .array item) ∧ OversizedLength data := by
  induction type with
  | address | uint | bool =>
    intro base index h
    exact absurd h (decodeStatic_run_ne_error _ _ _ _)
  | string =>
    intro base index h
    rw [decodeAt] at h
    obtain hoffset | ⟨offset, -, hrest⟩ := run_bind_eq_error h
    · exact absurd hoffset (readLength_run_ne_error _ _ _)
    obtain hlength | ⟨length, -, hrest⟩ := run_bind_eq_error hrest
    · exact absurd hlength (readLength_run_ne_error _ _ _)
    obtain hbytes | ⟨bytes, -, hrest⟩ := run_bind_eq_error hrest
    · exact absurd hbytes (slice_run_ne_error _ _ _ _)
    obtain htext | ⟨text, -, hrest⟩ := run_bind_eq_error hrest
    · exact absurd htext (decodeUtf8_run_ne_error _ _)
    · exact absurd hrest (run_pure_ne_error _ _)
  | bytes =>
    intro base index h
    rw [decodeAt] at h
    obtain hoffset | ⟨offset, -, hrest⟩ := run_bind_eq_error h
    · exact absurd hoffset (readLength_run_ne_error _ _ _)
    obtain hlength | ⟨length, -, hrest⟩ := run_bind_eq_error hrest
    · exact absurd hlength (readLength_run_ne_error _ _ _)
    obtain hbytes | ⟨bytes, -, hrest⟩ := run_bind_eq_error hrest
    · exact absurd hbytes (slice_run_ne_error _ _ _ _)
    · exact absurd hrest (run_pure_ne_error _ _)
  | array item ih =>
    intro base index h
    rw [decodeAt] at h
    obtain hoffset | ⟨offset, -, hrest⟩ := run_bind_eq_error h
    · exact absurd hoffset (readLength_run_ne_error _ _ _)
    obtain hlength | ⟨length, hlength, hrest⟩ := run_bind_eq_error hrest
    · exact absurd hlength (readLength_run_ne_error _ _ _)
    dsimp only at hrest
    split at hrest
    · rename_i hmore
      obtain hmul | ⟨needed, -, hthrow⟩ := run_bind_eq_error hrest
      · obtain ⟨rfl, hover⟩ := liftM_checkedMul_run_eq_error hmul
        exact ⟨rfl, ⟨item, rfl⟩, _, length, hlength, hmore, hover⟩
      obtain hthrown | ⟨_, hthrown, -⟩ := run_bind_eq_error hthrow
      · exact absurd hthrown (run_throw_ne_error _ _)
      · cases hthrown
    · obtain hitems | ⟨items, -, hpure⟩ := run_bind_eq_error hrest
      · obtain ⟨i, -, hi⟩ := mapM_run_eq_error hitems
        obtain ⟨he, -, hover⟩ := ih hi
        exact ⟨he, ⟨item, rfl⟩, hover⟩
      · exact absurd hpure (run_pure_ne_error _ _)

/-- Decoding answers, with values or an `AbiError`, for every list of types and every data,
except where one of the types is an array and the data holds a length word whose byte count
passes 64 bits: there it halts with a multiplication overflow. -/
theorem decode_answers_or_overflows (types : List ParamType) (data : Bytes) :
    (∃ answer, (decode types data).run = .ok answer) ∨
      ((decode types data).run = .error .mul ∧ (∃ item, .array item ∈ types) ∧
        OversizedLength data) := by
  rcases hrun : (decode types data).run with e | answer
  · obtain ⟨⟨type, index⟩, hmem, hhalt⟩ := mapM_run_eq_error hrun
    obtain ⟨rfl, ⟨item, rfl⟩, hover⟩ := decodeAt_halts hhalt
    exact .inr ⟨rfl, ⟨item, List.fst_mem_of_mem_zipIdx hmem⟩, hover⟩
  · exact .inl ⟨answer, rfl⟩

/-- Decoding types none of which is an array answers, for every data. -/
theorem decode_answers_of_static {types : List ParamType} (hstatic : ∀ item, .array item ∉ types)
    (data : Bytes) : ∃ answer, (decode types data).run = .ok answer := by
  rcases hrun : (decode types data).run with e | answer
  · obtain ⟨⟨type, index⟩, hmem, hhalt⟩ := mapM_run_eq_error hrun
    obtain ⟨-, ⟨item, rfl⟩, -⟩ := decodeAt_halts hhalt
    exact absurd (List.fst_mem_of_mem_zipIdx hmem) (hstatic item)
  · exact ⟨answer, rfl⟩

/-- For data shorter than 2^64 bytes, which has fewer than 2^59 words, the length words that
halt decoding are those of at least `2^59`. -/
theorem oversizedLength_iff {data : Bytes} (hfits : data.length ≤ u64Max) :
    OversizedLength data ↔
      ∃ start length, (readLength data start).run = .ok (.ok length) ∧ 2 ^ 59 ≤ length := by
  have hmax : u64Max = 2 ^ 64 - 1 := rfl
  constructor
  · rintro ⟨start, length, hread, -, hover⟩
    refine ⟨start, length, hread, ?_⟩
    simp only [hmax, wordSize] at hover
    omega
  · rintro ⟨start, length, hread, hlarge⟩
    refine ⟨start, length, hread, ?_, ?_⟩
    · simp only [hmax, wordSize] at hfits ⊢
      omega
    · simp only [hmax, wordSize]
      omega

/-- An array of numbers at offset `32` whose length word is `2^59`: the data has two words,
and the byte count `32 · 2^59 = 2^64` overflows. -/
theorem oversized_array_length_halts :
    (decode [.array .uint]
      ((Word.ofNatWrap 32).toBytes ++ (Word.ofNatWrap (2 ^ 59)).toBytes)).run = .error .mul := by
  set data := (Word.ofNatWrap 32).toBytes ++ (Word.ofNatWrap (2 ^ 59)).toBytes with hdata
  have hsize : data.length = 64 := by simp [data]
  have hw : Within data data := ⟨List.prefix_refl data, by rw [hsize]; decide⟩
  have hstart : U64.saturatingAdd 0 32 = 32 := saturatingAdd_of_le (by decide)
  have hoffset : (readLength data (0 + wordSize * 0)).run = .ok (.ok 32) :=
    readLength_at hw (List.prefix_append _ _) (by decide)
  have hlength : (readLength data 32).run = .ok (.ok (2 ^ 59)) := by
    refine readLength_at hw ?_ (by decide)
    rw [hdata, List.drop_left' (Word.length_toBytes _)]
  have hmul : (liftM (m := Except Overflow) (U64.checkedMul (2 ^ 59) wordSize) :
      Decoding Nat).run = .error .mul := rfl
  have harray : (decodeAt (.array .uint) data 0 0).run = .error .mul := by
    rw [decodeAt, run_bind_of_ok hoffset]
    dsimp only
    rw [hstart, run_bind_of_ok hlength, if_pos (by rw [hsize]; decide)]
    exact run_bind_of_halt hmul
  simp only [decode, List.zipIdx_cons, List.zipIdx_nil, List.mapM_cons]
  exact run_bind_of_halt harray

end NftProbe.Abi
