import NftProbe.Sim.Chain
import NftProbe.Proofs.Client.Ends

/-!
# How a creation and a transaction end

Each operation of the simulated chain is taken apart once, here, into the ways it can end;
every later fact about the chain is read off these descriptions and never unfolds the
operations again.

A creation (`deploy`) is counted first. It fails, changing nothing else, for an account the
chain cannot sign for or for empty init code. Otherwise it takes the next transaction number;
the drop switch then leaves it pending; else its admin is read from the constructor arguments
and the revert switch is taken; an admin and no revert request mint the supply the chain
starts every contract with, and a failure of that mint fails the creation, after the
transaction number was taken. A creation that reaches the block is included with the new
contract, or with status false and no contract. `DeployEnd` names these six endings and
`deploy_ends` shows that a creation always ends in one of them: it never halts.

A transaction (`send`) ends in the same way up to the contract: it fails for an unknown
account or an unknown contract, is left pending by the drop switch, reverts on request, or
runs the call against the contract, which reverts, halts on an overflow while reading the
calldata, or succeeds and replaces the contract's state (`SendEnd`, `send_ends`).
-/

set_option autoImplicit false

namespace NftProbe.Sim

open Abi Contract

variable {chain : Chain} {source target account : Address}

/-! ### The steps of a call -/

theorem ends_countMutation (chain : Chain) :
    Ends countMutation chain (.ok ()) { chain with mutatingCalls := chain.mutatingCalls + 1 } :=
  ends_modifyThe _ chain

theorem ends_ensureSigner (h : chain.signers.contains account = true) :
    Ends (ensureSigner account) chain (.ok ()) chain := by
  refine (ends_getThe chain).bind_ok ?_
  simp only [h, Bool.not_true, Bool.false_eq_true, if_false]
  exact ends_pure () chain

theorem ends_ensureSigner_unknown (h : chain.signers.contains account = false) :
    Ends (ensureSigner account) chain
      (.error (.rpc (-32000) ("unknown account " ++ account.toHex))) chain := by
  refine (ends_getThe chain).bind_ok ?_
  simp only [h, Bool.not_false, if_true]
  exact ends_throw _ chain

theorem ends_nextTxHash (source : Address) (data : Bytes) (chain : Chain) :
    Ends (nextTxHash source data) chain (.ok (transactionHash source (chain.txCount + 1) data))
      { chain with txCount := chain.txCount + 1 } :=
  (ends_getThe chain).bind_ok ((ends_set _ _).bind_ok (ends_pure _ _))

theorem ends_takeDrop (chain : Chain) :
    Ends takeDrop chain (.ok chain.dropNext) { chain with dropNext := false } :=
  (ends_getThe chain).bind_ok ((ends_set _ _).bind_ok (ends_pure _ _))

theorem ends_takeRevert (chain : Chain) :
    Ends takeRevert chain (.ok chain.revertNext) { chain with revertNext := false } :=
  (ends_getThe chain).bind_ok ((ends_set _ _).bind_ok (ends_pure _ _))

/-- The receipt of a transaction included in the block after the chain's latest. -/
def Chain.receipt (chain : Chain) (txHash : Hash32) (gasUsed : Nat) (status : Bool)
    (logs : List LogEntry) (created : Option Address) : Receipt :=
  { txHash, blockNumber := chain.blockNumber + 1, gasUsed, status, contractAddress := created,
    logs := if status then logs else [] }

theorem ends_includeTx (txHash : Hash32) (source : Address) (gasUsed : Nat) (status : Bool)
    (logs : List LogEntry) (created : Option Address) (chain : Chain) :
    Ends (includeTx txHash source gasUsed status logs created) chain
      (.ok (chain.receipt txHash gasUsed status logs created)) (chain.includeFrom source gasUsed) :=
  (ends_getThe chain).bind_ok ((ends_set _ _).bind_ok
    ((ends_emit _ _ _).bind_ok (ends_pure _ _)))

/-! ### Creations -/

/-- A fresh chain signs for each of its signers. -/
theorem Chain.create_signers_contains {config : Config} {index : Nat}
    (h : index < config.signerCount) :
    (Chain.create config).signers.contains (signerAddress index) = true := by
  simp only [Chain.create, List.contains_iff_mem, List.mem_map, List.mem_range]
  exact ⟨index, h, rfl⟩

/-- Reading the admin from constructor arguments never halts: there is no array to size. -/
theorem decode_address_run (args : Bytes) :
    ∃ decoded, (decode [.address] args).run = .ok decoded := by
  simp only [decode, List.zipIdx_cons, List.zipIdx_nil, List.mapM_cons, List.mapM_nil, decodeAt,
    decodeStatic, slice]
  split_ifs
  · exact ⟨_, rfl⟩
  · split <;> exact ⟨_, rfl⟩

/-- The chain once a call is counted and takes the next transaction number. -/
def Chain.numbered (chain : Chain) : Chain :=
  { chain with mutatingCalls := chain.mutatingCalls + 1, txCount := chain.txCount + 1 }

/-- The chain once a call that reached execution is counted, numbered and has consumed both
fault switches. -/
def Chain.started (chain : Chain) : Chain :=
  { chain.numbered with dropNext := false, revertNext := false }

/-- The address the next creation from `source` gets. -/
def Chain.creationAddress (chain : Chain) (source : Address) : Address :=
  contractAddress source ((chain.nonces.get? source).getD 0)

/-- The ways a creation from `source` with init code `bytecode` and constructor arguments
`args` ends: its answer and the state it leaves. -/
inductive DeployEnd (chain : Chain) (source : Address) (bytecode args : Bytes) :
    Except ClientError Deployment → Chain → Prop
  /-- The chain cannot sign for the account: only the call is counted. -/
  | unknownSigner : chain.signers.contains source = false →
      DeployEnd chain source bytecode args
        (.error (.rpc (-32000) ("unknown account " ++ source.toHex)))
        { chain with mutatingCalls := chain.mutatingCalls + 1 }
  /-- Empty init code: only the call is counted. -/
  | emptyCode : chain.signers.contains source = true → bytecode = [] →
      DeployEnd chain source bytecode args (.error (.execution "empty init code"))
        { chain with mutatingCalls := chain.mutatingCalls + 1 }
  /-- The drop switch leaves the creation pending, with a transaction number taken. -/
  | dropped : chain.signers.contains source = true → bytecode ≠ [] → chain.dropNext = true →
      DeployEnd chain source bytecode args
        (.ok ⟨none, .pending (transactionHash source (chain.txCount + 1) (bytecode ++ args))⟩)
        { (chain.numbered) with dropNext := false }
  /-- Minting the initial supply to the admin fails after the transaction number was taken. -/
  | premintFailed {decoded : Except AbiError (List Token)} {admin : Address} {reason : String} :
      chain.signers.contains source = true → bytecode ≠ [] → chain.dropNext = false →
      (decode [.address] args).run = .ok decoded → adminOf decoded = some admin →
      chain.revertNext = false →
      premint (chain.creationAddress source) admin chain.config.premintedSupply
        (Collection.create admin) = .error reason →
      DeployEnd chain source bytecode args (.error (.execution reason))
        chain.started
  /-- No admin, or a revert request: included with status false and no contract. -/
  | reverted {decoded : Except AbiError (List Token)} :
      chain.signers.contains source = true → bytecode ≠ [] → chain.dropNext = false →
      (decode [.address] args).run = .ok decoded →
      (adminOf decoded = none ∨ chain.revertNext = true) →
      DeployEnd chain source bytecode args
        (.ok ⟨none, .included (chain.receipt
          (transactionHash source (chain.txCount + 1) (bytecode ++ args))
          (executionGas (bytecode ++ args) deployGas) false [] none)⟩)
        (chain.started.includeFrom source (executionGas (bytecode ++ args) deployGas))
  /-- The contract is created with its initial supply and the creation is included. -/
  | created {decoded : Except AbiError (List Token)} {admin : Address} {collection : Collection}
      {logs : List LogEntry} :
      chain.signers.contains source = true → bytecode ≠ [] → chain.dropNext = false →
      (decode [.address] args).run = .ok decoded → adminOf decoded = some admin →
      chain.revertNext = false →
      premint (chain.creationAddress source) admin chain.config.premintedSupply
        (Collection.create admin) = .ok (collection, logs) →
      DeployEnd chain source bytecode args
        (.ok ⟨some (chain.creationAddress source), .included (chain.receipt
          (transactionHash source (chain.txCount + 1) (bytecode ++ args))
          (executionGas (bytecode ++ args) deployGas) true logs
          (some (chain.creationAddress source)))⟩)
        (Chain.includeFrom
          { chain.started with
            contracts := chain.contracts.insert (chain.creationAddress source) collection }
          source (executionGas (bytecode ++ args) deployGas))

variable {bytecode args : Bytes} {r : Except ClientError Deployment} {chain' : Chain}

/-- Each ending is how the creation runs. -/
theorem DeployEnd.ends (h : DeployEnd chain source bytecode args r chain') :
    Ends (deploy source bytecode args) chain r chain' := by
  cases h with
  | unknownSigner hsigner =>
    refine (ends_countMutation chain).bind_ok ((ends_ensureSigner_unknown ?_).bind_error)
    exact hsigner
  | emptyCode hsigner hcode =>
    subst hcode
    refine (ends_countMutation chain).bind_ok ((ends_ensureSigner ?_).bind_ok ?_)
    · exact hsigner
    exact (ends_throw _ _).bind_error
  | dropped hsigner hcode hdrop =>
    refine (ends_countMutation chain).bind_ok ((ends_ensureSigner ?_).bind_ok ?_)
    · exact hsigner
    simp only [List.isEmpty_eq_false_iff.2 hcode, Bool.false_eq_true, if_false]
    refine (ends_nextTxHash _ _ _).bind_ok ((ends_takeDrop _).bind_ok ?_)
    simp only [hdrop, if_true]
    exact (ends_emit _ _ _).bind_ok (ends_pure _ _)
  | premintFailed hsigner hcode hdrop hdecoded hadmin hrevert hpremint =>
    refine (ends_countMutation chain).bind_ok ((ends_ensureSigner ?_).bind_ok ?_)
    · exact hsigner
    simp only [List.isEmpty_eq_false_iff.2 hcode, Bool.false_eq_true, if_false]
    refine (ends_nextTxHash _ _ _).bind_ok ((ends_takeDrop _).bind_ok ?_)
    simp only [hdrop, Bool.false_eq_true, if_false]
    refine (ends_getThe _).bind_ok ((ends_checked hdecoded _).bind_ok
      ((ends_takeRevert _).bind_ok ?_))
    simp only [hadmin, hrevert]
    simp only [Chain.creationAddress] at hpremint
    simp only [hpremint]
    exact (ends_throw _ _).bind_error
  | @reverted decoded hsigner hcode hdrop hdecoded hrest =>
    refine (ends_countMutation chain).bind_ok ((ends_ensureSigner ?_).bind_ok ?_)
    · exact hsigner
    simp only [List.isEmpty_eq_false_iff.2 hcode, Bool.false_eq_true, if_false]
    refine (ends_nextTxHash _ _ _).bind_ok ((ends_takeDrop _).bind_ok ?_)
    simp only [hdrop, Bool.false_eq_true, if_false]
    refine (ends_getThe _).bind_ok ((ends_checked hdecoded _).bind_ok
      ((ends_takeRevert _).bind_ok ?_))
    have hrefused : ∀ admin, adminOf decoded = some admin → chain.revertNext = false → False := by
      intro admin hadmin hrevert
      rcases hrest with hnone | hset <;> simp_all
    split
    · rename_i admin hadmin hrevert
      exact (hrefused admin hadmin hrevert).elim
    · exact (ends_pure _ _).bind_ok ((ends_includeTx _ _ _ _ _ _ _).bind_ok (ends_pure _ _))
  | created hsigner hcode hdrop hdecoded hadmin hrevert hpremint =>
    refine (ends_countMutation chain).bind_ok ((ends_ensureSigner ?_).bind_ok ?_)
    · exact hsigner
    simp only [List.isEmpty_eq_false_iff.2 hcode, Bool.false_eq_true, if_false]
    refine (ends_nextTxHash _ _ _).bind_ok ((ends_takeDrop _).bind_ok ?_)
    simp only [hdrop, Bool.false_eq_true, if_false]
    refine (ends_getThe _).bind_ok ((ends_checked hdecoded _).bind_ok
      ((ends_takeRevert _).bind_ok ?_))
    simp only [hadmin, hrevert]
    simp only [Chain.creationAddress] at hpremint
    simp only [hpremint]
    refine (ends_modifyThe _ _).bind_ok ((ends_pure _ _).bind_ok ((ends_includeTx _ _ _ _ _ _ _).bind_ok ?_))
    exact ends_pure _ _

/-- Every creation ends in one of the listed ways. -/
theorem deployEnd_exists (chain : Chain) (source : Address) (bytecode args : Bytes) :
    ∃ r chain', DeployEnd chain source bytecode args r chain' := by
  cases hsigner : chain.signers.contains source
  · exact ⟨_, _, .unknownSigner hsigner⟩
  by_cases hcode : bytecode = []
  · exact ⟨_, _, .emptyCode hsigner hcode⟩
  cases hdrop : chain.dropNext
  case true => exact ⟨_, _, .dropped hsigner hcode hdrop⟩
  obtain ⟨decoded, hdecoded⟩ := decode_address_run args
  cases hadmin : adminOf decoded with
  | none => exact ⟨_, _, .reverted hsigner hcode hdrop hdecoded (.inl hadmin)⟩
  | some admin =>
    cases hrevert : chain.revertNext
    case true => exact ⟨_, _, .reverted hsigner hcode hdrop hdecoded (.inr hrevert)⟩
    cases hpremint : premint (chain.creationAddress source) admin chain.config.premintedSupply
        (Collection.create admin) with
    | error reason => exact ⟨_, _, .premintFailed hsigner hcode hdrop hdecoded hadmin hrevert hpremint⟩
    | ok result => exact ⟨_, _, .created hsigner hcode hdrop hdecoded hadmin hrevert hpremint⟩

/-- A creation's answer and the state it leaves say which way it ended. -/
theorem DeployEnd.of_answers
    (h : (deploy source bytecode args).Answers chain r chain') :
    DeployEnd chain source bytecode args r chain' := by
  obtain ⟨r₀, chain₀, hend⟩ := deployEnd_exists chain source bytecode args
  obtain ⟨rfl, rfl⟩ := hend.ends.answers_eq h
  exact hend

/-! ### Calls -/

variable {target : Address} {call : Call} {t : Except ClientError TxOutcome}

/-- The ways a call of `call` on `target` from `source` ends, when it does not halt. -/
inductive SendEnd (chain : Chain) (source target : Address) (call : Call) :
    Except ClientError TxOutcome → Chain → Prop
  /-- The chain cannot sign for the account: only the call is counted. -/
  | unknownSigner : chain.signers.contains source = false →
      SendEnd chain source target call
        (.error (.rpc (-32000) ("unknown account " ++ source.toHex)))
        { chain with mutatingCalls := chain.mutatingCalls + 1 }
  /-- No contract at the target: only the call is counted. -/
  | unknownContract : chain.signers.contains source = true →
      chain.contracts.contains target = false →
      SendEnd chain source target call (.error (.unknownContract target))
        { chain with mutatingCalls := chain.mutatingCalls + 1 }
  /-- The drop switch leaves the call pending, with a transaction number taken. -/
  | dropped : chain.signers.contains source = true → chain.contracts.contains target = true →
      chain.dropNext = true →
      SendEnd chain source target call
        (.ok (.pending (transactionHash source (chain.txCount + 1) call.calldata)))
        { (chain.numbered) with dropNext := false }
  /-- The revert switch: included with status false, the contract untouched. -/
  | revertedOnRequest : chain.signers.contains source = true →
      chain.contracts.contains target = true → chain.dropNext = false →
      chain.revertNext = true →
      SendEnd chain source target call
        (.ok (.included (chain.receipt (transactionHash source (chain.txCount + 1) call.calldata)
          (executionGas call.calldata (callGas call)) false [] none)))
        (chain.started.includeFrom source (executionGas call.calldata (callGas call)))
  /-- The contract reverts the call: included with status false, the contract untouched. -/
  | reverted {collection : Collection} {reason : String} :
      chain.signers.contains source = true → chain.dropNext = false →
      chain.revertNext = false → chain.contracts.get? target = some collection →
      (execute chain.staleOwnerReads target source call.calldata collection).run
        = .ok (.error reason) →
      SendEnd chain source target call
        (.ok (.included (chain.receipt (transactionHash source (chain.txCount + 1) call.calldata)
          (executionGas call.calldata (callGas call)) false [] none)))
        (chain.started.includeFrom source (executionGas call.calldata (callGas call)))
  /-- The contract runs the call: its new state is stored and the call is included. -/
  | executed {collection collection' : Collection} {logs : List LogEntry} :
      chain.signers.contains source = true → chain.dropNext = false →
      chain.revertNext = false → chain.contracts.get? target = some collection →
      (execute chain.staleOwnerReads target source call.calldata collection).run
        = .ok (.ok (collection', logs)) →
      SendEnd chain source target call
        (.ok (.included (chain.receipt (transactionHash source (chain.txCount + 1) call.calldata)
          (executionGas call.calldata (callGas call)) true logs none)))
        (Chain.includeFrom { chain.started with contracts := chain.contracts.insert target collection' }
          source (executionGas call.calldata (callGas call)))

theorem contains_of_get? {α : Type} {table : Table Address α} {key : Address} {value : α}
    (h : table.get? key = some value) : table.contains key = true := by
  simp [Table.contains_eq_isSome_get?, h]

/-- The steps every call that reaches its contract takes. -/
theorem SendEnd.ends (h : SendEnd chain source target call t chain') :
    Ends (send source target call) chain t chain' := by
  cases h with
  | unknownSigner hsigner =>
    refine (ends_countMutation chain).bind_ok ((ends_ensureSigner_unknown ?_).bind_error)
    exact hsigner
  | unknownContract hsigner hcontract =>
    refine (ends_countMutation chain).bind_ok ((ends_ensureSigner ?_).bind_ok ?_)
    · exact hsigner
    refine (ends_getThe _).bind_ok ?_
    simp only [hcontract, Bool.not_false, if_true]
    exact (ends_throw _ _).bind_error
  | dropped hsigner hcontract hdrop =>
    refine (ends_countMutation chain).bind_ok ((ends_ensureSigner ?_).bind_ok ?_)
    · exact hsigner
    refine (ends_getThe _).bind_ok ?_
    simp only [hcontract, Bool.not_true, Bool.false_eq_true, if_false]
    refine (ends_nextTxHash _ _ _).bind_ok ((ends_takeDrop _).bind_ok ?_)
    simp only [hdrop, if_true]
    exact (ends_emit _ _ _).bind_ok (ends_pure _ _)
  | revertedOnRequest hsigner hcontract hdrop hrevert =>
    refine (ends_countMutation chain).bind_ok ((ends_ensureSigner ?_).bind_ok ?_)
    · exact hsigner
    refine (ends_getThe _).bind_ok ?_
    simp only [hcontract, Bool.not_true, Bool.false_eq_true, if_false]
    refine (ends_nextTxHash _ _ _).bind_ok ((ends_takeDrop _).bind_ok ?_)
    simp only [hdrop, Bool.false_eq_true, if_false]
    refine (ends_takeRevert _).bind_ok ?_
    simp only [hrevert, if_true]
    refine (ends_emit _ _ _).bind_ok ((ends_pure _ _).bind_ok ?_)
    exact (ends_includeTx _ _ _ _ _ _ _).bind_ok (ends_pure _ _)
  | reverted hsigner hdrop hrevert hcollection hexecute =>
    refine (ends_countMutation chain).bind_ok ((ends_ensureSigner ?_).bind_ok ?_)
    · exact hsigner
    refine (ends_getThe _).bind_ok ?_
    simp only [contains_of_get? hcollection, Bool.not_true, Bool.false_eq_true, if_false]
    refine (ends_nextTxHash _ _ _).bind_ok ((ends_takeDrop _).bind_ok ?_)
    simp only [hdrop, Bool.false_eq_true, if_false]
    refine (ends_takeRevert _).bind_ok ?_
    simp only [hrevert, Bool.false_eq_true, if_false]
    refine (ends_getThe _).bind_ok ?_
    simp only [hcollection]
    refine (ends_checked hexecute _).bind_ok ((ends_emit _ _ _).bind_ok ((ends_pure _ _).bind_ok ?_))
    exact (ends_includeTx _ _ _ _ _ _ _).bind_ok (ends_pure _ _)
  | executed hsigner hdrop hrevert hcollection hexecute =>
    refine (ends_countMutation chain).bind_ok ((ends_ensureSigner ?_).bind_ok ?_)
    · exact hsigner
    refine (ends_getThe _).bind_ok ?_
    simp only [contains_of_get? hcollection, Bool.not_true, Bool.false_eq_true, if_false]
    refine (ends_nextTxHash _ _ _).bind_ok ((ends_takeDrop _).bind_ok ?_)
    simp only [hdrop, Bool.false_eq_true, if_false]
    refine (ends_takeRevert _).bind_ok ?_
    simp only [hrevert, Bool.false_eq_true, if_false]
    refine (ends_getThe _).bind_ok ?_
    simp only [hcollection]
    refine (ends_checked hexecute _).bind_ok ((ends_set _ _).bind_ok ((ends_pure _ _).bind_ok ?_))
    exact (ends_includeTx _ _ _ _ _ _ _).bind_ok (ends_pure _ _)

/-- A call halts when its contract's execution overflows. -/
theorem send_halts {collection : Collection} {overflow : Overflow}
    (hsigner : chain.signers.contains source = true) (hdrop : chain.dropNext = false)
    (hrevert : chain.revertNext = false) (hcollection : chain.contracts.get? target = some collection)
    (hexecute : (execute chain.staleOwnerReads target source call.calldata collection).run
      = .error overflow) :
    Halts (send source target call) chain := by
  refine (ends_countMutation chain).bind_halts ((ends_ensureSigner ?_).bind_halts ?_)
  · exact hsigner
  refine (ends_getThe _).bind_halts ?_
  simp only [contains_of_get? hcollection, Bool.not_true, Bool.false_eq_true, if_false]
  refine (ends_nextTxHash _ _ _).bind_halts ((ends_takeDrop _).bind_halts ?_)
  simp only [hdrop, Bool.false_eq_true, if_false]
  refine (ends_takeRevert _).bind_halts ?_
  simp only [hrevert, Bool.false_eq_true, if_false]
  refine (ends_getThe _).bind_halts ?_
  simp only [hcollection]
  exact (halts_checked hexecute _).bind

/-- Every call either halts on an overflow in its contract or ends in one of the listed ways. -/
theorem sendEnd_exists (chain : Chain) (source target : Address) (call : Call) :
    (∃ t chain', SendEnd chain source target call t chain') ∨ Halts (send source target call) chain := by
  cases hsigner : chain.signers.contains source
  · exact .inl ⟨_, _, .unknownSigner hsigner⟩
  cases hcontract : chain.contracts.contains target
  · exact .inl ⟨_, _, .unknownContract hsigner hcontract⟩
  cases hdrop : chain.dropNext
  case true => exact .inl ⟨_, _, .dropped hsigner hcontract hdrop⟩
  cases hrevert : chain.revertNext
  case true => exact .inl ⟨_, _, .revertedOnRequest hsigner hcontract hdrop hrevert⟩
  obtain ⟨collection, hcollection⟩ : ∃ collection, chain.contracts.get? target = some collection :=
    Option.isSome_iff_exists.1 (by rwa [← Table.contains_eq_isSome_get?])
  rcases hexecute : (execute chain.staleOwnerReads target source call.calldata collection).run with
    overflow | reason | ⟨collection', logs⟩
  · exact .inr (send_halts hsigner hdrop hrevert hcollection hexecute)
  · exact .inl ⟨_, _, .reverted hsigner hdrop hrevert hcollection hexecute⟩
  · exact .inl ⟨_, _, .executed hsigner hdrop hrevert hcollection hexecute⟩

/-- A call's answer and the state it leaves say which way it ended. -/
theorem SendEnd.of_answers (h : (send source target call).Answers chain t chain') :
    SendEnd chain source target call t chain' := by
  rcases sendEnd_exists chain source target call with ⟨t₀, chain₀, hend⟩ | hhalts
  · obtain ⟨rfl, rfl⟩ := hend.ends.answers_eq h
    exact hend
  · exact absurd h hhalts.not_answers

/-! ### Reads and switches -/

/-- A read of an address that holds no contract fails, naming the address. -/
theorem read_unknownContract (hnone : chain.contracts.get? target = none) (call : Call) :
    Ends (read target call) chain (.error (.unknownContract target)) chain := by
  refine (ends_getThe _).bind_ok ?_
  simp only [hnone]
  exact ends_throw _ _

/-- A read that the contract reverts fails with the revert reason. -/
theorem read_reverts {collection : Collection} {reason : String}
    (hcontract : chain.contracts.get? target = some collection)
    (hquery : (query chain.config chain.snapshotOf chain.staleOwnerReads collection
      call.calldata).run = .ok (.error reason)) :
    Ends (read target call) chain (.error (.execution ("execution reverted: " ++ reason))) chain := by
  refine (ends_getThe _).bind_ok ?_
  simp only [hcontract]
  exact (ends_checked hquery _).bind_ok (ends_throw _ _)

/-- A read halts when the contract's answer halts. -/
theorem read_halts_of_query {collection : Collection} {overflow : Overflow}
    (hcontract : chain.contracts.get? target = some collection)
    (hquery : (query chain.config chain.snapshotOf chain.staleOwnerReads collection
      call.calldata).run = .error overflow) :
    Halts (read target call) chain := by
  refine (ends_getThe _).bind_halts ?_
  simp only [hcontract]
  exact (halts_checked hquery _).bind

/-- A read answers what decoding the contract's answer gives. -/
theorem read_decodes {collection : Collection} {tokens : List Token}
    {result : Except AbiError (List Token)}
    (hcontract : chain.contracts.get? target = some collection)
    (hquery : (query chain.config chain.snapshotOf chain.staleOwnerReads collection
      call.calldata).run = .ok (.ok tokens))
    (hdecode : (decode call.returns (encode tokens)).run = .ok result) :
    Ends (read target call) chain (result.mapError .abi) chain := by
  refine (ends_getThe _).bind_ok ?_
  simp only [hcontract]
  refine (ends_checked hquery _).bind_ok ((ends_checked hdecode _).bind_ok ?_)
  cases result with
  | ok decoded => exact ends_pure _ _
  | error error => exact ends_throw _ _

/-- A read leaves the chain as it was: it ends there, or halts on an overflow. -/
theorem read_ends (chain : Chain) (target : Address) (call : Call) :
    (∃ r, Ends (read target call) chain r chain) ∨ Halts (read target call) chain := by
  cases hcontract : chain.contracts.get? target with
  | none => exact .inl ⟨_, read_unknownContract hcontract call⟩
  | some collection =>
    rcases hquery : (query chain.config chain.snapshotOf chain.staleOwnerReads collection
        call.calldata).run with overflow | reason | tokens
    · exact .inr (read_halts_of_query hcontract hquery)
    · exact .inl ⟨_, read_reverts hcontract hquery⟩
    · rcases hdecode : (decode call.returns (encode tokens)).run with overflow | result
      · refine .inr ((ends_getThe _).bind_halts ?_)
        simp only [hcontract]
        exact (ends_checked hquery _).bind_halts (halts_checked hdecode _).bind
      · exact .inl ⟨_, read_decodes hcontract hquery hdecode⟩

theorem read_keeps {answer : Except ClientError (List Token)}
    (h : (read target call).Answers chain answer chain') : chain' = chain := by
  rcases read_ends chain target call with ⟨r, hend⟩ | hhalts
  · exact (hend.answers_eq h).2
  · exact absurd h hhalts.not_answers

end NftProbe.Sim
