import NftProbe.Proofs.Abi.Lengths
import NftProbe.Proofs.Abi.Typing
import NftProbe.Proofs.Sim.Answers

/-!
# Reading the contract's results

`getContractInfo()` returns six values and `validateL3Chain()` five, and `ContractInfo.ofTokens`
and `L3View.ofTokens` read them. Each value converts to the field of its return type: a text, a
number that fits 64 bits, or an address (`Token.toField`). A list of the wrong length is refused
with an arity error that names its length (`ContractInfo.ofTokens_of_length_ne`); a list of the
right length with the error of the first value that does not convert, a mismatch of kinds or an
overflow of 64 bits (`fieldError?`, `ContractInfo.ofTokens_eq_error_iff`). One case analysis per
result says all of this (`ContractInfo.ofTokens_cases`): either every value converts and the
result's tokens are the list, or the first failure is the error.

So a list is read exactly when it is the tokens of the result it is read as and that result's
numbers fit 64 bits (`ContractInfo.ofTokens_eq_ok_iff`), and such a result reads back from the
encoding of its tokens, which is what the contract answers (`ContractInfo.reads_back`). The same
holds of the view of the chain. `results_read_back` gathers these facts for both results.

Values decoded at a result's own return types have those types, so every value converts to its
field but for a number above 64 bits (`Token.toField_of_hasType`): reading a decoded result fails,
if at all, only with an overflow (`ContractInfo.ofTokens_decoded`, `L3View.ofTokens_decoded`).
`decoded_values_typed_and_reencode` gathers this with the typing of `Typing`.
-/

set_option autoImplicit false

namespace NftProbe

namespace Abi

/-- The conversion of a returned value to a field of a result, the field's value dropped: a text,
a number that fits 64 bits or an address. The results have fields of no other type. -/
def Token.toField (t : Token) : ParamType → Except AbiError Unit
  | .string => t.asString.map fun _ => ()
  | .uint => t.asU64.map fun _ => ()
  | .address => t.asAddress.map fun _ => ()
  | _ => .ok ()

/-- The error of the first value that does not convert to the field of its type, in order. -/
def fieldError? : List Token → List ParamType → Option AbiError
  | t :: tokens, type :: types =>
    match t.toField type with
    | .error e => some e
    | .ok () => fieldError? tokens types
  | _, _ => none

@[simp] theorem Token.asString_eq_ok {t : Token} {s : String} : t.asString = .ok s ↔ t = .string s := by
  cases t <;> simp [Token.asString]

@[simp] theorem Token.asAddress_eq_ok {t : Token} {a : Address} :
    t.asAddress = .ok a ↔ t = .address a := by
  cases t <;> simp [Token.asAddress]

/-- A value reads as a 64-bit number exactly when it is the word of that number. -/
theorem Token.asU64_eq_ok {t : Token} {n : Nat} :
    t.asU64 = .ok n ↔ t = .uint (Word.ofU64 n) ∧ n ≤ u64Max := by
  constructor
  · intro h
    cases t with
    | uint w =>
      obtain ⟨m, hm⟩ := w
      by_cases hfits : m ≤ u64Max
      · simp [Token.asU64, Token.asUint, Word.toU64?, hfits, bind, Except.bind] at h
        subst h
        have hword : m % wordBound = m := Nat.mod_eq_of_lt hm
        exact ⟨by simp [Word.ofU64, Word.ofNatWrap, hword], hfits⟩
      · simp [Token.asU64, Token.asUint, Word.toU64?, hfits, bind, Except.bind] at h
    | _ => simp [Token.asU64, Token.asUint, Token.mismatch, bind, Except.bind] at h
  · rintro ⟨rfl, hn⟩
    exact Sim.Token.asU64_uint_ofU64 hn

/-- A value that does not convert to its field is of another kind, or a number above 64 bits. -/
theorem Token.toField_eq_error {t : Token} {type : ParamType} {e : AbiError}
    (h : t.toField type = .error e) :
    (∃ expected found, e = .typeMismatch expected found) ∨ e = .overflow "u64" := by
  cases type with
  | string =>
    cases t <;> simp only [Token.toField, Token.asString, Token.mismatch, Except.map, reduceCtorEq,
      Except.error.injEq] at h
    all_goals exact .inl ⟨_, _, h.symm⟩
  | address =>
    cases t <;> simp only [Token.toField, Token.asAddress, Token.mismatch, Except.map, reduceCtorEq,
      Except.error.injEq] at h
    all_goals exact .inl ⟨_, _, h.symm⟩
  | uint =>
    cases t with
    | uint w =>
      by_cases hfits : w.toNat ≤ u64Max <;>
        simp [Token.toField, Token.asU64, Token.asUint, Word.toU64?, hfits, Except.map, bind,
          Except.bind] at h
      exact .inr h.symm
    | _ =>
      simp only [Token.toField, Token.asU64, Token.asUint, Token.mismatch, Except.map, bind,
        Except.bind, Except.error.injEq] at h
      exact .inl ⟨_, _, h.symm⟩
  | bool | bytes | array => simp [Token.toField] at h

theorem fieldError?_eq_some {tokens : List Token} {types : List ParamType} {e : AbiError}
    (h : fieldError? tokens types = some e) :
    (∃ expected found, e = .typeMismatch expected found) ∨ e = .overflow "u64" := by
  induction tokens generalizing types with
  | nil => simp [fieldError?] at h
  | cons t tokens ih =>
    cases types with
    | nil => simp [fieldError?] at h
    | cons type types =>
      simp only [fieldError?] at h
      split at h
      · rename_i e' hfield
        cases h
        exact Token.toField_eq_error hfield
      · exact ih h

/-- A value of a field's type converts to the field, but for a number above 64 bits. -/
theorem Token.toField_of_hasType {t : Token} {type : ParamType} (h : t.HasType type) :
    t.toField type = .ok () ∨ t.toField type = .error (.overflow "u64") := by
  cases h with
  | uint w =>
    by_cases hfits : w.toNat ≤ u64Max
    · left
      simp [Token.toField, Token.asU64, Token.asUint, Word.toU64?, hfits, Except.map, bind,
        Except.bind]
    · right
      simp [Token.toField, Token.asU64, Token.asUint, Word.toU64?, hfits, Except.map, bind,
        Except.bind]
  | address | bool | string | bytes | array =>
    left
    rfl

/-- Values of their types fail to convert only for a number above 64 bits. -/
theorem fieldError?_of_hasType {tokens : List Token} {types : List ParamType} {e : AbiError}
    (htypes : List.Forall₂ Token.HasType tokens types) (h : fieldError? tokens types = some e) :
    e = .overflow "u64" := by
  induction htypes with
  | nil => simp [fieldError?] at h
  | @cons t type tokens types ht _ ih =>
    simp only [fieldError?] at h
    split at h
    · rename_i e' hfield
      cases h
      rcases Token.toField_of_hasType ht with hok | hover
      · rw [hok] at hfield
        cases hfield
      · rw [hover] at hfield
        cases hfield
        rfl
    · exact ih h

end Abi

namespace Contract

open Abi

/-! ### The metadata -/

/-- The metadata's numbers fit 64 bits, as the contract's fields do. -/
def ContractInfo.Fits (info : ContractInfo) : Prop :=
  info.totalSupply ≤ u64Max ∧ info.chainId ≤ u64Max

instance (info : ContractInfo) : Decidable info.Fits :=
  inferInstanceAs (Decidable (_ ∧ _))

/-- A list of the wrong length is refused before any value is read. -/
theorem ContractInfo.ofTokens_of_length_ne {tokens : List Token} (h : tokens.length ≠ 6) :
    ContractInfo.ofTokens tokens = .error (.arity 6 tokens.length) := by
  simp [ContractInfo.ofTokens, expectArity, h]

/-- Six values are read as metadata exactly when each converts to its field, and then the
metadata's tokens are the six values; otherwise the first that does not convert gives the
error. -/
theorem ContractInfo.ofTokens_cases {tokens : List Token} (hlength : tokens.length = 6) :
    (∃ info, ContractInfo.ofTokens tokens = .ok info ∧ info.Fits ∧ info.toTokens = tokens ∧
      fieldError? tokens contractInfoTypes = none) ∨
    (∃ e, ContractInfo.ofTokens tokens = .error e ∧ fieldError? tokens contractInfoTypes = some e) := by
  rcases tokens with
    _ | ⟨t₀, _ | ⟨t₁, _ | ⟨t₂, _ | ⟨t₃, _ | ⟨t₄, _ | ⟨t₅, _ | ⟨t₆, rest⟩⟩⟩⟩⟩⟩⟩
  all_goals simp at hlength
  rcases h₀ : t₀.asString with e | name
  · exact .inr ⟨e, by simp [ContractInfo.ofTokens, expectArity, tokenAt, *],
      by simp [fieldError?, contractInfoTypes, Token.toField, Except.map, *]⟩
  rcases h₁ : t₁.asString with e | symbol
  · exact .inr ⟨e, by simp [ContractInfo.ofTokens, expectArity, tokenAt, *],
      by simp [fieldError?, contractInfoTypes, Token.toField, Except.map, *]⟩
  rcases h₂ : t₂.asU64 with e | supply
  · exact .inr ⟨e, by simp [ContractInfo.ofTokens, expectArity, tokenAt, *],
      by simp [fieldError?, contractInfoTypes, Token.toField, Except.map, *]⟩
  rcases h₃ : t₃.asString with e | version
  · exact .inr ⟨e, by simp [ContractInfo.ofTokens, expectArity, tokenAt, *],
      by simp [fieldError?, contractInfoTypes, Token.toField, Except.map, *]⟩
  rcases h₄ : t₄.asString with e | chainName
  · exact .inr ⟨e, by simp [ContractInfo.ofTokens, expectArity, tokenAt, *],
      by simp [fieldError?, contractInfoTypes, Token.toField, Except.map, *]⟩
  rcases h₅ : t₅.asU64 with e | chainId
  · exact .inr ⟨e, by simp [ContractInfo.ofTokens, expectArity, tokenAt, *],
      by simp [fieldError?, contractInfoTypes, Token.toField, Except.map, *]⟩
  have hfield : fieldError? [t₀, t₁, t₂, t₃, t₄, t₅] contractInfoTypes = none := by
    simp [fieldError?, contractInfoTypes, Token.toField, Except.map, *]
  obtain rfl := Token.asString_eq_ok.1 h₀
  obtain rfl := Token.asString_eq_ok.1 h₁
  obtain ⟨rfl, hsupply⟩ := Token.asU64_eq_ok.1 h₂
  obtain rfl := Token.asString_eq_ok.1 h₃
  obtain rfl := Token.asString_eq_ok.1 h₄
  obtain ⟨rfl, hid⟩ := Token.asU64_eq_ok.1 h₅
  have hread : ContractInfo.ofTokens (ContractInfo.toTokens
      ⟨name, symbol, supply, version, chainName, chainId⟩) =
      .ok ⟨name, symbol, supply, version, chainName, chainId⟩ :=
    Sim.ContractInfo.ofTokens_toTokens hsupply hid
  exact .inl ⟨_, hread, ⟨hsupply, hid⟩, rfl, hfield⟩

/-- A list is read as metadata exactly when it is the metadata's tokens and its numbers fit
64 bits. -/
theorem ContractInfo.ofTokens_eq_ok_iff {tokens : List Token} {info : ContractInfo} :
    ContractInfo.ofTokens tokens = .ok info ↔ info.Fits ∧ info.toTokens = tokens := by
  constructor
  · intro h
    have hlength : tokens.length = 6 := by
      by_contra hne
      rw [ContractInfo.ofTokens_of_length_ne hne] at h
      cases h
    rcases ContractInfo.ofTokens_cases hlength with ⟨info', hread, hfits, htokens, -⟩ | ⟨e, hread, -⟩
    · rw [hread] at h
      cases h
      exact ⟨hfits, htokens⟩
    · rw [hread] at h
      cases h
  · rintro ⟨⟨hsupply, hid⟩, rfl⟩
    exact Sim.ContractInfo.ofTokens_toTokens hsupply hid

/-- Six values that are not read as metadata give the error of the first that does not convert to
its field. -/
theorem ContractInfo.ofTokens_eq_error_iff {tokens : List Token} (hlength : tokens.length = 6)
    {e : AbiError} :
    ContractInfo.ofTokens tokens = .error e ↔ fieldError? tokens contractInfoTypes = some e := by
  rcases ContractInfo.ofTokens_cases hlength with ⟨info, hread, -, -, hnone⟩ | ⟨e', hread, hsome⟩
  · simp [hread, hnone]
  · simp [hread, hsome]

/-- Metadata whose numbers fit 64 bits reads back from the encoding of its tokens, when that
encoding is a byte string the program can hold. -/
theorem ContractInfo.reads_back {info : ContractInfo} (hfits : info.Fits)
    (hlength : (encode info.toTokens).length ≤ u64Max) :
    (decode contractInfoTypes (encode info.toTokens)).run = .ok (.ok info.toTokens) ∧
      ContractInfo.ofTokens info.toTokens = .ok info := by
  have htypes : List.Forall₂ Token.HasType info.toTokens contractInfoTypes :=
    .cons (.string _) (.cons (.string _) (.cons (.uint _) (.cons (.string _) (.cons (.string _)
      (.cons (.uint _) .nil)))))
  refine ⟨?_, ContractInfo.ofTokens_eq_ok_iff.2 ⟨hfits, rfl⟩⟩
  simpa using decode_encode_append htypes [] (by simpa using hlength)

/-! ### The view of the chain -/

/-- The view's numbers fit 64 bits, as the contract's fields do. -/
def L3View.Fits (view : L3View) : Prop :=
  view.chainId ≤ u64Max ∧ view.blockNumber ≤ u64Max ∧ view.timestamp ≤ u64Max ∧
    view.gasLimit ≤ u64Max

instance (view : L3View) : Decidable view.Fits :=
  inferInstanceAs (Decidable (_ ∧ _ ∧ _ ∧ _))

theorem L3View.ofTokens_of_length_ne {tokens : List Token} (h : tokens.length ≠ 5) :
    L3View.ofTokens tokens = .error (.arity 5 tokens.length) := by
  simp [L3View.ofTokens, expectArity, h]

theorem L3View.ofTokens_toTokens {view : L3View} (h : view.Fits) :
    L3View.ofTokens view.toTokens = .ok view := by
  obtain ⟨hid, hblock, htime, hgas⟩ := h
  simp [L3View.ofTokens, L3View.toTokens, expectArity, tokenAt, Token.asAddress,
    Sim.Token.asU64_uint_ofU64 hid,
    Sim.Token.asU64_uint_ofU64 hblock, Sim.Token.asU64_uint_ofU64 htime,
    Sim.Token.asU64_uint_ofU64 hgas]

/-- Five values are read as a view exactly when each converts to its field, and then the view's
tokens are the five values; otherwise the first that does not convert gives the error. -/
theorem L3View.ofTokens_cases {tokens : List Token} (hlength : tokens.length = 5) :
    (∃ view, L3View.ofTokens tokens = .ok view ∧ view.Fits ∧ view.toTokens = tokens ∧
      fieldError? tokens l3ViewTypes = none) ∨
    (∃ e, L3View.ofTokens tokens = .error e ∧ fieldError? tokens l3ViewTypes = some e) := by
  rcases tokens with _ | ⟨t₀, _ | ⟨t₁, _ | ⟨t₂, _ | ⟨t₃, _ | ⟨t₄, _ | ⟨t₅, rest⟩⟩⟩⟩⟩⟩
  all_goals simp at hlength
  rcases h₀ : t₀.asU64 with e | chainId
  · exact .inr ⟨e, by simp [L3View.ofTokens, expectArity, tokenAt, *],
      by simp [fieldError?, l3ViewTypes, Token.toField, Except.map, *]⟩
  rcases h₁ : t₁.asU64 with e | blockNumber
  · exact .inr ⟨e, by simp [L3View.ofTokens, expectArity, tokenAt, *],
      by simp [fieldError?, l3ViewTypes, Token.toField, Except.map, *]⟩
  rcases h₂ : t₂.asU64 with e | timestamp
  · exact .inr ⟨e, by simp [L3View.ofTokens, expectArity, tokenAt, *],
      by simp [fieldError?, l3ViewTypes, Token.toField, Except.map, *]⟩
  rcases h₃ : t₃.asAddress with e | coinbase
  · exact .inr ⟨e, by simp [L3View.ofTokens, expectArity, tokenAt, *],
      by simp [fieldError?, l3ViewTypes, Token.toField, Except.map, *]⟩
  rcases h₄ : t₄.asU64 with e | gasLimit
  · exact .inr ⟨e, by simp [L3View.ofTokens, expectArity, tokenAt, *],
      by simp [fieldError?, l3ViewTypes, Token.toField, Except.map, *]⟩
  have hfield : fieldError? [t₀, t₁, t₂, t₃, t₄] l3ViewTypes = none := by
    simp [fieldError?, l3ViewTypes, Token.toField, Except.map, *]
  obtain ⟨rfl, hid⟩ := Token.asU64_eq_ok.1 h₀
  obtain ⟨rfl, hblock⟩ := Token.asU64_eq_ok.1 h₁
  obtain ⟨rfl, htime⟩ := Token.asU64_eq_ok.1 h₂
  obtain rfl := Token.asAddress_eq_ok.1 h₃
  obtain ⟨rfl, hgas⟩ := Token.asU64_eq_ok.1 h₄
  have hfits : L3View.Fits ⟨chainId, blockNumber, timestamp, coinbase, gasLimit⟩ :=
    ⟨hid, hblock, htime, hgas⟩
  exact .inl ⟨_, L3View.ofTokens_toTokens hfits, hfits, rfl, hfield⟩

/-- A list is read as a view exactly when it is the view's tokens and its numbers fit 64 bits. -/
theorem L3View.ofTokens_eq_ok_iff {tokens : List Token} {view : L3View} :
    L3View.ofTokens tokens = .ok view ↔ view.Fits ∧ view.toTokens = tokens := by
  constructor
  · intro h
    have hlength : tokens.length = 5 := by
      by_contra hne
      rw [L3View.ofTokens_of_length_ne hne] at h
      cases h
    rcases L3View.ofTokens_cases hlength with ⟨view', hread, hfits, htokens, -⟩ | ⟨e, hread, -⟩
    · rw [hread] at h
      cases h
      exact ⟨hfits, htokens⟩
    · rw [hread] at h
      cases h
  · rintro ⟨hfits, rfl⟩
    exact L3View.ofTokens_toTokens hfits

theorem L3View.ofTokens_eq_error_iff {tokens : List Token} (hlength : tokens.length = 5)
    {e : AbiError} :
    L3View.ofTokens tokens = .error e ↔ fieldError? tokens l3ViewTypes = some e := by
  rcases L3View.ofTokens_cases hlength with ⟨view, hread, -, -, hnone⟩ | ⟨e', hread, hsome⟩
  · simp [hread, hnone]
  · simp [hread, hsome]

/-- A view whose numbers fit 64 bits reads back from the encoding of its tokens: five words. -/
theorem L3View.reads_back {view : L3View} (hfits : view.Fits) :
    (decode l3ViewTypes (encode view.toTokens)).run = .ok (.ok view.toTokens) ∧
      L3View.ofTokens view.toTokens = .ok view := by
  have htypes : List.Forall₂ Token.HasType view.toTokens l3ViewTypes :=
    .cons (.uint _) (.cons (.uint _) (.cons (.uint _) (.cons (.address _) (.cons (.uint _) .nil))))
  have hlength : (encode view.toTokens).length ≤ u64Max := by
    rw [length_encode_of_static (by simp [L3View.toTokens, Token.isDynamic])]
    simp [L3View.toTokens, wordSize, u64Max_eq]
  refine ⟨?_, L3View.ofTokens_toTokens hfits⟩
  simpa using decode_encode_append htypes [] (by simpa using hlength)

/-! ### Both results -/

/-- The contract's metadata and its view of the chain, read from returned values. Each result
whose numbers fit 64 bits reads back from the encoding of its tokens (for the metadata, an
encoding the program can hold). A list is read exactly when it is the tokens of a result whose
numbers fit; a list of the wrong length is refused for its arity, and one of the right length
with the error of the first value that does not convert to its field, which is a mismatch of
kinds or an overflow of 64 bits. -/
theorem results_read_back :
    (∀ info : ContractInfo, info.Fits → (encode info.toTokens).length ≤ u64Max →
      ∃ tokens, (decode contractInfoTypes (encode info.toTokens)).run = .ok (.ok tokens) ∧
        ContractInfo.ofTokens tokens = .ok info) ∧
    (∀ tokens info, ContractInfo.ofTokens tokens = .ok info ↔
      info.Fits ∧ info.toTokens = tokens) ∧
    (∀ tokens, tokens.length ≠ 6 →
      ContractInfo.ofTokens tokens = .error (.arity 6 tokens.length)) ∧
    (∀ tokens e, tokens.length = 6 →
      (ContractInfo.ofTokens tokens = .error e ↔ fieldError? tokens contractInfoTypes = some e)) ∧
    (∀ view : L3View, view.Fits →
      ∃ tokens, (decode l3ViewTypes (encode view.toTokens)).run = .ok (.ok tokens) ∧
        L3View.ofTokens tokens = .ok view) ∧
    (∀ tokens view, L3View.ofTokens tokens = .ok view ↔ view.Fits ∧ view.toTokens = tokens) ∧
    (∀ tokens, tokens.length ≠ 5 → L3View.ofTokens tokens = .error (.arity 5 tokens.length)) ∧
    (∀ tokens e, tokens.length = 5 →
      (L3View.ofTokens tokens = .error e ↔ fieldError? tokens l3ViewTypes = some e)) ∧
    (∀ tokens types e, fieldError? tokens types = some e →
      (∃ expected found, e = .typeMismatch expected found) ∨ e = .overflow "u64") :=
  ⟨fun _ hfits hlength => ⟨_, ContractInfo.reads_back hfits hlength⟩,
    fun _ _ => ContractInfo.ofTokens_eq_ok_iff,
    fun _ hlength => ContractInfo.ofTokens_of_length_ne hlength,
    fun _ _ hlength => ContractInfo.ofTokens_eq_error_iff hlength,
    fun _ hfits => ⟨_, L3View.reads_back hfits⟩,
    fun _ _ => L3View.ofTokens_eq_ok_iff,
    fun _ hlength => L3View.ofTokens_of_length_ne hlength,
    fun _ _ hlength => L3View.ofTokens_eq_error_iff hlength,
    fun _ _ _ h => fieldError?_eq_some h⟩

/-- The metadata the program expects reads back from its encoding. -/
theorem expected_metadata_reads_back :
    ContractInfo.Fits ⟨expectedContractName, expectedContractSymbol, 0, expectedContractVersion,
      expectedChainName, expectedChainId⟩ ∧
    (encode (ContractInfo.toTokens ⟨expectedContractName, expectedContractSymbol, 0,
      expectedContractVersion, expectedChainName, expectedChainId⟩)).length ≤ u64Max ∧
    ∃ tokens, (decode contractInfoTypes (encode (ContractInfo.toTokens ⟨expectedContractName,
      expectedContractSymbol, 0, expectedContractVersion, expectedChainName,
      expectedChainId⟩))).run = .ok (.ok tokens) ∧
      ContractInfo.ofTokens tokens = .ok ⟨expectedContractName, expectedContractSymbol, 0,
        expectedContractVersion, expectedChainName, expectedChainId⟩ := by
  have hfits : ContractInfo.Fits ⟨expectedContractName, expectedContractSymbol, 0,
      expectedContractVersion, expectedChainName, expectedChainId⟩ := by
    decide
  have hlength : (encode (ContractInfo.toTokens ⟨expectedContractName, expectedContractSymbol, 0,
      expectedContractVersion, expectedChainName, expectedChainId⟩)).length ≤ u64Max := by
    decide +kernel
  exact ⟨hfits, hlength, results_read_back.1 _ hfits hlength⟩

/-! ### Results of a decode -/

/-- Metadata decoded at its own return types is read, or refused for a number above 64 bits;
never for its arity or a kind of value. -/
theorem ContractInfo.ofTokens_decoded {data : Bytes} {tokens : List Token} {e : AbiError}
    (hdecode : (decode contractInfoTypes data).run = .ok (.ok tokens))
    (h : ContractInfo.ofTokens tokens = .error e) : e = .overflow "u64" := by
  have htypes := decode_hasType hdecode
  have hlength : tokens.length = 6 := by simpa [contractInfoTypes] using htypes.length_eq
  exact fieldError?_of_hasType htypes ((ContractInfo.ofTokens_eq_error_iff hlength).1 h)

/-- A view decoded at its own return types is read, or refused for a number above 64 bits. -/
theorem L3View.ofTokens_decoded {data : Bytes} {tokens : List Token} {e : AbiError}
    (hdecode : (decode l3ViewTypes data).run = .ok (.ok tokens))
    (h : L3View.ofTokens tokens = .error e) : e = .overflow "u64" := by
  have htypes := decode_hasType hdecode
  have hlength : tokens.length = 5 := by simpa [l3ViewTypes] using htypes.length_eq
  exact fieldError?_of_hasType htypes ((L3View.ofTokens_eq_error_iff hlength).1 h)

/-- What decoding answers, from any bytes, has the types it was asked for, each boolean read from
a word that is 0 or 1; re-encoding it gives a canonical form that decodes back to it, when that
form is a byte string the program can hold. So the contract's metadata and view of the chain,
decoded at their own return types, are refused by the readers only for a number above 64 bits,
never for their arity or a kind of value. -/
theorem decoded_values_typed_and_reencode :
    (∀ (types : List ParamType) (data : Bytes) (tokens : List Token),
      (decode types data).run = .ok (.ok tokens) →
        List.Forall₂ Token.HasType tokens types ∧
          ((encode tokens).length ≤ u64Max →
            (decode types (encode tokens)).run = .ok (.ok tokens))) ∧
    (∀ (data : Bytes) (base index : Nat) (t : Token),
      (decodeAt .bool data base index).run = .ok (.ok t) →
        ∃ b, t = .bool b ∧
          data.slice? (base + wordSize * index) wordSize = some (encodeStatic (.bool b))) ∧
    (∀ (data : Bytes) (tokens : List Token), (decode contractInfoTypes data).run = .ok (.ok tokens) →
      ∀ e, ContractInfo.ofTokens tokens = .error e → e = .overflow "u64") ∧
    (∀ (data : Bytes) (tokens : List Token), (decode l3ViewTypes data).run = .ok (.ok tokens) →
      ∀ e, L3View.ofTokens tokens = .error e → e = .overflow "u64") :=
  ⟨fun _ _ _ hdecode => ⟨decode_hasType hdecode, decode_reencode hdecode⟩,
    fun _ _ _ _ hbool => decodeStatic_bool_word hbool,
    fun _ _ hdecode _ h => ContractInfo.ofTokens_decoded hdecode h,
    fun _ _ hdecode _ h => L3View.ofTokens_decoded hdecode h⟩

/-- An address word with its high bytes set, a boolean word and a stray byte decode to an address
and `true`; their canonical form differs from the data and decodes back to them. -/
theorem stray_bytes_reencode :
    (decode [.address, .bool] (List.replicate 32 0xff ++ Bytes.zeros 31 ++ [1, 7])).run =
        .ok (.ok [.address (Address.ofNatWrap (2 ^ 160 - 1)), .bool true]) ∧
      List.Forall₂ Token.HasType [.address (Address.ofNatWrap (2 ^ 160 - 1)), .bool true]
        [.address, .bool] ∧
      (encode [.address (Address.ofNatWrap (2 ^ 160 - 1)), .bool true]).length ≤ u64Max ∧
      (decode [.address, .bool]
        (encode [.address (Address.ofNatWrap (2 ^ 160 - 1)), .bool true])).run =
        .ok (.ok [.address (Address.ofNatWrap (2 ^ 160 - 1)), .bool true]) ∧
      encode [.address (Address.ofNatWrap (2 ^ 160 - 1)), .bool true] ≠
        List.replicate 32 0xff ++ Bytes.zeros 31 ++ [1, 7] := by
  have hdecode : (decode [.address, .bool] (List.replicate 32 0xff ++ Bytes.zeros 31 ++ [1, 7])).run =
      .ok (.ok [.address (Address.ofNatWrap (2 ^ 160 - 1)), .bool true]) := by
    rfl
  have hlength : (encode [.address (Address.ofNatWrap (2 ^ 160 - 1)), .bool true]).length ≤
      u64Max := by
    decide
  obtain ⟨htypes, hreencode⟩ := decoded_values_typed_and_reencode.1 _ _ _ hdecode
  exact ⟨hdecode, htypes, hlength, hreencode hlength, by decide⟩

end Contract

end NftProbe
