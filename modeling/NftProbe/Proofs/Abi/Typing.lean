import NftProbe.Proofs.Abi.Halting

/-!
# Decoded values have their types

Whatever bytes decoding is given, the values it answers have the types it was asked for
(`decode_hasType`): one value per type, each of its type's kind, and every item of an array, at
every depth, of the array's item type. The argument follows the decoder one bind at a time, as
`Halting` does for its halts: a bind that answers passed an answer on from its first part
(`run_bind_eq_ok`), a pass over a list that answers answered for each element
(`mapM_run_eq_ok`), and the value is built at the end of each case, by induction on the type
(`decodeAt_hasType`).

A boolean is read only from a word that is 0 or 1, so it stands in the data as encoding writes it
(`decodeStatic_bool_word`). Decoding accepts more than encoding writes (an address word whose high
bytes are set, bytes after the values, offsets that are shared or out of order), but what it
answers has its types, so re-encoding gives the canonical form of the values, which decodes back to
them (`decode_reencode`). That needs the canonical form to be a byte string the program can hold:
values that share their contents in the data each get their own copy when re-encoded, so the
canonical form can be far longer than the data.
-/

set_option autoImplicit false

namespace NftProbe.Abi

variable {α β : Type}

/-! ### Answers through binds and lists -/

/-- A bind that answers a value got a value from its first part. -/
theorem run_bind_eq_ok {x : Decoding α} {f : α → Decoding β} {b : β}
    (h : (x >>= f).run = .ok (.ok b)) : ∃ a, x.run = .ok (.ok a) ∧ (f a).run = .ok (.ok b) := by
  rcases hx : x.run with e | (err | a)
  · rw [run_bind_of_halt hx] at h
    cases h
  · simp only [ExceptT.run_bind, hx] at h
    cases h
  · rw [run_bind_of_ok hx] at h
    exact ⟨a, rfl, h⟩

theorem run_pure_eq_ok {a b : α} (h : (pure a : Decoding α).run = .ok (.ok b)) : a = b := by
  cases h
  rfl

/-- A pass over a list that answers answered for each element, in order. -/
theorem mapM_run_eq_ok {γ : Type} {f : γ → Decoding α} {xs : List γ} {ys : List α}
    (h : (xs.mapM f).run = .ok (.ok ys)) :
    List.Forall₂ (fun x y => (f x).run = .ok (.ok y)) xs ys := by
  induction xs generalizing ys with
  | nil =>
    rw [List.mapM_nil] at h
    cases run_pure_eq_ok h
    exact .nil
  | cons x xs ih =>
    rw [List.mapM_cons] at h
    obtain ⟨y, hy, hrest⟩ := run_bind_eq_ok h
    obtain ⟨ys', hys, hpure⟩ := run_bind_eq_ok hrest
    cases run_pure_eq_ok hpure
    exact .cons hy (ih hys)

/-- Every element of the right list is related to one of the left. -/
theorem forall₂_exists_of_mem_right {γ : Type} {R : γ → α → Prop} {xs : List γ}
    {ys : List α} (h : List.Forall₂ R xs ys) {y : α} (hy : y ∈ ys) : ∃ x ∈ xs, R x y := by
  induction h with
  | nil => cases hy
  | cons hr _ ih =>
    rcases List.mem_cons.1 hy with rfl | hy
    · exact ⟨_, List.mem_cons_self, hr⟩
    · obtain ⟨x, hx, hxy⟩ := ih hy
      exact ⟨x, List.mem_cons_of_mem _ hx, hxy⟩

/-! ### Words -/

/-- A slice that answers is the bytes the data holds there. -/
theorem slice_run_eq_ok {data bytes : Bytes} {offset length : Nat}
    (h : (slice data offset length).run = .ok (.ok bytes)) :
    data.slice? offset length = some bytes ∧ bytes.length = length := by
  unfold slice at h
  split at h
  · cases h
  · split at h
    · rename_i bytes' hslice
      cases run_pure_eq_ok h
      refine ⟨hslice, ?_⟩
      unfold Bytes.slice? at hslice
      split at hslice
      · cases hslice
        simp only [List.length_take, List.length_drop]
        omega
      · cases hslice
    · cases h

/-- A byte that is at most 1 is 0 or 1. -/
theorem UInt8.eq_zero_or_eq_one {byte : UInt8} (h : ¬byte > 1) : byte = 0 ∨ byte = 1 := by
  have hle : byte.toNat ≤ 1 := by
    simpa only [gt_iff_lt, UInt8.lt_iff_toNat_lt, UInt8.toNat_one, not_lt] using h
  rcases Nat.le_one_iff_eq_zero_or_eq_one.1 hle with h | h
  · exact .inl (UInt8.toNat_inj.1 (by simpa using h))
  · exact .inr (UInt8.toNat_inj.1 (by simpa using h))

/-- A word whose first 31 bytes are zero and whose last is at most 1 is the word of a boolean:
the one whose last byte is 1. -/
theorem word_eq_encodeStatic_bool {word : Bytes} (hlength : word.length = 32)
    (hzeros : (word.take 31).any (· != 0) = false) (hlast : ¬word.getD 31 0 > 1) :
    word = encodeStatic (.bool (word.getD 31 0 == 1)) := by
  obtain ⟨pre, last, rfl⟩ : ∃ pre last, word = pre ++ [last] :=
    ⟨word.dropLast, word.getLast (List.ne_nil_of_length_eq_add_one hlength),
      (List.dropLast_append_getLast _).symm⟩
  have hpre : pre.length = 31 := by simpa using hlength
  have hread : (pre ++ [last]).getD 31 0 = last := by
    simp [List.getD_eq_getElem?_getD, hpre]
  rw [hread] at hlast ⊢
  rw [List.take_left' hpre] at hzeros
  have hzero : pre = Bytes.zeros 31 := by
    refine List.eq_replicate_iff.2 ⟨hpre, fun x hx => ?_⟩
    simpa using List.any_eq_false.1 hzeros x hx
  rw [encodeStatic_bool, hzero]
  rcases UInt8.eq_zero_or_eq_one hlast with rfl | rfl <;> rfl

/-- A boolean is read only from a word that is 0 or 1, the word encoding writes for it. -/
theorem decodeStatic_bool_word {data : Bytes} {offset : Nat} {t : Token}
    (h : (decodeStatic .bool data offset).run = .ok (.ok t)) :
    ∃ b, t = .bool b ∧ data.slice? offset wordSize = some (encodeStatic (.bool b)) := by
  obtain ⟨word, hword, h⟩ := run_bind_eq_ok h
  obtain ⟨hslice, hlength⟩ := slice_run_eq_ok hword
  dsimp only at h
  split at h
  · cases h
  · rename_i hcanonical
    cases run_pure_eq_ok h
    simp only [Bool.not_eq_true, Bool.or_eq_false_iff, decide_eq_false_iff_not] at hcanonical
    refine ⟨_, rfl, ?_⟩
    rw [hslice, ← word_eq_encodeStatic_bool hlength hcanonical.1 hcanonical.2]

/-! ### Types -/

/-- A static value read has the type it was read at. -/
theorem decodeStatic_hasType {type : ParamType} {data : Bytes} {offset : Nat} {t : Token}
    (h : (decodeStatic type data offset).run = .ok (.ok t)) : t.HasType type := by
  obtain ⟨word, -, h⟩ := run_bind_eq_ok h
  cases type with
  | address =>
    cases run_pure_eq_ok h
    exact .address _
  | uint =>
    cases run_pure_eq_ok h
    exact .uint _
  | bool =>
    dsimp only at h
    split at h
    · cases h
    · cases run_pure_eq_ok h
      exact .bool _
  | string | bytes | array => cases h

/-- Every value read has the type it was read at, by induction on the type; an array's items are
read at its item type, which is the induction's one recursive case. -/
theorem decodeAt_hasType {data : Bytes} {type : ParamType} :
    ∀ {base index : Nat} {t : Token}, (decodeAt type data base index).run = .ok (.ok t) →
      t.HasType type := by
  induction type with
  | address | uint | bool =>
    intro base index t h
    exact decodeStatic_hasType h
  | string =>
    intro base index t h
    rw [decodeAt] at h
    obtain ⟨offset, -, h⟩ := run_bind_eq_ok h
    obtain ⟨length, -, h⟩ := run_bind_eq_ok h
    obtain ⟨bytes, -, h⟩ := run_bind_eq_ok h
    obtain ⟨text, -, h⟩ := run_bind_eq_ok h
    cases run_pure_eq_ok h
    exact .string _
  | bytes =>
    intro base index t h
    rw [decodeAt] at h
    obtain ⟨offset, -, h⟩ := run_bind_eq_ok h
    obtain ⟨length, -, h⟩ := run_bind_eq_ok h
    obtain ⟨bytes, -, h⟩ := run_bind_eq_ok h
    cases run_pure_eq_ok h
    exact .bytes _
  | array item ih =>
    intro base index t h
    rw [decodeAt] at h
    obtain ⟨offset, -, h⟩ := run_bind_eq_ok h
    obtain ⟨length, -, h⟩ := run_bind_eq_ok h
    dsimp only at h
    split at h
    · obtain ⟨needed, -, h⟩ := run_bind_eq_ok h
      obtain ⟨_, h, -⟩ := run_bind_eq_ok h
      cases h
    · obtain ⟨items, hitems, h⟩ := run_bind_eq_ok h
      cases run_pure_eq_ok h
      refine .array fun t ht => ?_
      obtain ⟨i, -, hi⟩ := forall₂_exists_of_mem_right (mapM_run_eq_ok hitems) ht
      exact ih hi

/-- The values decoding answers have the types it was asked for, one value per type. -/
theorem decode_hasType {types : List ParamType} {data : Bytes} {tokens : List Token}
    (h : (decode types data).run = .ok (.ok tokens)) : List.Forall₂ Token.HasType tokens types := by
  have htyped : List.Forall₂ (fun entry t => t.HasType entry.1) types.zipIdx tokens := by
    refine (mapM_run_eq_ok h).imp fun entry t hread => ?_
    obtain ⟨type, index⟩ := entry
    exact decodeAt_hasType hread
  have htypes : List.Forall₂ (fun type t => t.HasType type) (types.zipIdx.map Prod.fst) tokens :=
    List.forall₂_map_left_iff.2 htyped
  rw [List.zipIdx_map_fst] at htypes
  exact htypes.flip

/-- Re-encoding decoded values gives their canonical form, which decodes back to them, when it is
a byte string the program can hold. -/
theorem decode_reencode {types : List ParamType} {data : Bytes} {tokens : List Token}
    (h : (decode types data).run = .ok (.ok tokens)) (hfits : (encode tokens).length ≤ u64Max) :
    (decode types (encode tokens)).run = .ok (.ok tokens) := by
  simpa using decode_encode_append (decode_hasType h) [] hfits

end NftProbe.Abi
