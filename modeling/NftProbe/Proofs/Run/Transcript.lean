import NftProbe.Proofs.Run.Exec
import NftProbe.Contract.Calls

/-!
# Transcripts of client calls

An `Exchange` is one call a run makes to its client together with the client's answer.
`Client.Calls c a es b` says that the client `c`, in state `a`, answers the calls `es` one
after the other and ends in state `b`. Every client satisfies it for the calls it was really
asked, but a client whose state does not record its calls satisfies it for other lists too. A
client that keeps its calls pins the list down: `Client.transcribed` appends every call and its
answer to a transcript kept beside the client's own state, and for it the calls of a run are
exactly what the transcript gained (`transcribed_calls`).

Two views of a list of calls matter for the workflows: the calls that change the chain
(`Exchange.mutation?`), and the milestones, the answers the run's gates and mints decide on
(`Exchange.isMilestone`): the signers, the block snapshots, the contract's own view of the
chain, the creation of the contract and the transactions. Every other call is a plain read.
-/

set_option autoImplicit false

namespace NftProbe

open Abi Contract

/-- One call to a chain client, with the client's answer. -/
inductive Exchange
  | chainId (answer : Except ClientError Nat)
  | signers (answer : Except ClientError (List Address))
  | balance (account : Address) (answer : Except ClientError Word)
  | snapshot (answer : Except ClientError BlockSnapshot)
  | deploy (source : Address) (bytecode args : Bytes) (answer : Except ClientError Deployment)
  | send (source target : Address) (call : Call) (answer : Except ClientError TxOutcome)
  | read (target : Address) (call : Call) (answer : Except ClientError (List Token))

/-- A call that changes the chain: the creation of a contract or a transaction. -/
inductive Mutation
  | deploy (source : Address) (bytecode args : Bytes)
  | send (source target : Address) (call : Call)

namespace Exchange

/-- The change of the chain an exchange asked for, if any. -/
def mutation? : Exchange → Option Mutation
  | .deploy source bytecode args _ => some (.deploy source bytecode args)
  | .send source target call _ => some (.send source target call)
  | _ => none

/-- Whether a workflow's gates or mints decide on the answer: the signers, a block snapshot,
the contract's view of the chain, a creation or a transaction. -/
def isMilestone : Exchange → Bool
  | .signers _ | .snapshot _ | .deploy .. | .send .. => true
  | .read _ call _ => call.signature == validateL3ChainSignature
  | _ => false

/-- A plain read changes nothing on the chain. -/
theorem mutation?_eq_none_of_isMilestone {e : Exchange} (h : e.isMilestone = false) :
    e.mutation? = none := by
  cases e <;> simp_all [isMilestone, mutation?]

/-- A read of anything but the contract's view of the chain is a plain read. -/
theorem isMilestone_read {target : Address} {call : Call} {answer : Except ClientError (List Token)}
    (h : call.signature ≠ validateL3ChainSignature) :
    (read target call answer).isMilestone = false := by
  simp [isMilestone, h]

end Exchange

namespace Client

variable {σ : Type} (c : Client σ)

/-- The client, asked the call of `e` in state `a`, gives `e`'s answer and moves to `a'`. -/
def Answers (a : σ) : Exchange → σ → Prop
  | .chainId r, a' => c.chainId.Answers a r a'
  | .signers r, a' => c.signers.Answers a r a'
  | .balance account r, a' => (c.balance account).Answers a r a'
  | .snapshot r, a' => c.snapshot.Answers a r a'
  | .deploy source bytecode args r, a' => (c.deploy source bytecode args).Answers a r a'
  | .send source target call r, a' => (c.send source target call).Answers a r a'
  | .read target call r, a' => (c.read target call).Answers a r a'

/-- The client answers the calls `es` one after the other, from state `a` to state `b`. -/
def Calls : σ → List Exchange → σ → Prop
  | a, [], b => a = b
  | a, e :: es, b => ∃ a', c.Answers a e a' ∧ Calls a' es b

variable {c}

@[simp] theorem calls_nil {a b : σ} : c.Calls a [] b ↔ a = b := Iff.rfl

theorem calls_singleton {a b : σ} {e : Exchange} : c.Calls a [e] b ↔ c.Answers a e b := by
  simp [Calls]

theorem calls_append {a b : σ} {es es' : List Exchange} :
    c.Calls a (es ++ es') b ↔ ∃ m, c.Calls a es m ∧ c.Calls m es' b := by
  induction es generalizing a with
  | nil => simp [Calls]
  | cons e es ih =>
    simp only [List.cons_append, Calls, ih]
    constructor
    · rintro ⟨a', he, m, hes, hes'⟩
      exact ⟨m, ⟨a', he, hes⟩, hes'⟩
    · rintro ⟨m, ⟨a', he, hes⟩, hes'⟩
      exact ⟨a', he, m, hes, hes'⟩

theorem Calls.append {a m b : σ} {es es' : List Exchange} (h : c.Calls a es m)
    (h' : c.Calls m es' b) : c.Calls a (es ++ es') b :=
  calls_append.2 ⟨m, h, h'⟩

variable (c) in
/-- The client answers calls from `a` to `b` whose milestones, in order, are `ms`. -/
def Reaches (a : σ) (ms : List Exchange) (b : σ) : Prop :=
  ∃ es, c.Calls a es b ∧ es.filter Exchange.isMilestone = ms

theorem Reaches.refl (a : σ) : c.Reaches a [] a := ⟨[], rfl, rfl⟩

theorem Reaches.trans {a m b : σ} {ms ms' : List Exchange} (h : c.Reaches a ms m)
    (h' : c.Reaches m ms' b) : c.Reaches a (ms ++ ms') b := by
  obtain ⟨es, hes, rfl⟩ := h
  obtain ⟨es', hes', rfl⟩ := h'
  exact ⟨es ++ es', hes.append hes', List.filter_append es es'⟩

theorem Reaches.milestone {a b : σ} {e : Exchange} (h : c.Answers a e b)
    (he : e.isMilestone = true) : c.Reaches a [e] b :=
  ⟨[e], calls_singleton.2 h, by simp [he]⟩

theorem Reaches.quiet {a b : σ} {e : Exchange} (h : c.Answers a e b)
    (he : e.isMilestone = false) : c.Reaches a [] b :=
  ⟨[e], calls_singleton.2 h, by simp [he]⟩

end Client

/-- Runs `op` and appends its call and answer, made by `entry`, to the transcript kept beside
the client's state. -/
def ClientM.transcribe {σ α : Type} (op : ClientM σ α) (entry : Except ClientError α → Exchange) :
    ClientM (σ × List Exchange) α :=
  ExceptT.mk fun state => do
    let (answer, inner) ← op.runFrom state.1
    pure (answer, (inner, state.2 ++ [entry answer]))

namespace Client

variable {σ : Type}

/-- The client with a transcript of every call it answered, in order. -/
def transcribed (c : Client σ) : Client (σ × List Exchange) where
  chainId := c.chainId.transcribe .chainId
  signers := c.signers.transcribe .signers
  balance account := (c.balance account).transcribe (.balance account)
  snapshot := c.snapshot.transcribe .snapshot
  deploy source bytecode args :=
    (c.deploy source bytecode args).transcribe (.deploy source bytecode args)
  send source target call := (c.send source target call).transcribe (.send source target call)
  read target call := (c.read target call).transcribe (.read target call)

theorem transcribe_answers {α : Type} {op : ClientM σ α} {entry : Except ClientError α → Exchange}
    {a b : σ × List Exchange} {r : Except ClientError α} (h : (op.transcribe entry).Answers a r b) :
    op.Answers a.1 r b.1 ∧ b.2 = a.2 ++ [entry r] := by
  obtain ⟨log, log', hrun⟩ := h
  simp only [ClientM.transcribe, ClientM.runFrom, ExceptT.run_mk, StateT.run] at hrun
  rcases hop : (op.runFrom a.1).run log with _ | ⟨⟨r', inner⟩, log₁⟩
  · simp [ClientM.runFrom, StateT.run] at hop
    simp [hop, bind, StateT.bind, Except.bind] at hrun
  · simp only [ClientM.runFrom, StateT.run] at hop
    simp only [hop, bind, StateT.bind, Except.bind, pure, StateT.pure, Except.pure,
      Except.ok.injEq, Prod.mk.injEq] at hrun
    obtain ⟨⟨rfl, rfl⟩, rfl⟩ := hrun
    exact ⟨⟨log, log₁, hop⟩, rfl⟩

theorem transcribed_answers {c : Client σ} {a b : σ × List Exchange} {e : Exchange}
    (h : c.transcribed.Answers a e b) : c.Answers a.1 e b.1 ∧ b.2 = a.2 ++ [e] := by
  cases e <;> exact transcribe_answers h

/-- The calls a transcribed client answers are what its transcript gained. -/
theorem transcribed_calls {c : Client σ} {a b : σ × List Exchange} {es : List Exchange}
    (h : c.transcribed.Calls a es b) : c.Calls a.1 es b.1 ∧ b.2 = a.2 ++ es := by
  induction es generalizing a with
  | nil =>
    cases h
    exact ⟨rfl, by simp⟩
  | cons e es ih =>
    obtain ⟨m, he, hes⟩ := h
    obtain ⟨he₁, he₂⟩ := transcribed_answers he
    obtain ⟨hes₁, hes₂⟩ := ih hes
    exact ⟨⟨m.1, he₁, hes₁⟩, by simp [hes₂, he₂]⟩

/-- The milestones a transcribed client reaches are those of what its transcript gained, and the
client behind it answered those calls. -/
theorem transcribed_reaches {c : Client σ} {a b : σ × List Exchange} {ms : List Exchange}
    (h : c.transcribed.Reaches a ms b) :
    ∃ es, c.Calls a.1 es b.1 ∧ b.2 = a.2 ++ es ∧ es.filter Exchange.isMilestone = ms := by
  obtain ⟨es, hcalls, hms⟩ := h
  obtain ⟨hinner, htranscript⟩ := transcribed_calls hcalls
  exact ⟨es, hinner, htranscript, hms⟩

end Client

end NftProbe
