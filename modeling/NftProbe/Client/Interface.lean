import NftProbe.Client.Error
import NftProbe.Chain.Receipt
import NftProbe.Abi.Call
import NftProbe.Log

/-!
# The chain client interface

Everything the program needs from a chain goes through a `Client`: the chain id, the accounts
it can sign for, balances, the latest block, contract creation, transactions and reads. A
client keeps its own state `σ`; each operation may change it, emit log records, fail with a
`ClientError`, or halt on an overflow. Transactions return once they are included or the
client gave up waiting.
-/

set_option autoImplicit false

namespace NftProbe

/-- An operation of a client with state `σ`. -/
abbrev ClientM (σ : Type) := ExceptT ClientError (StateT σ Logged)

/-- The operations a chain offers the program. -/
structure Client (σ : Type) where
  /-- The chain id the node reports. -/
  chainId : ClientM σ Nat
  /-- The accounts the client can sign for, in a stable order. -/
  signers : ClientM σ (List Address)
  /-- The native balance of an account, in wei. -/
  balance : Address → ClientM σ Word
  /-- Facts about the latest block. -/
  snapshot : ClientM σ BlockSnapshot
  /-- Creates a contract from `from` with init code and constructor arguments. -/
  deploy : Address → Bytes → Bytes → ClientM σ Deployment
  /-- Sends a call from `from` to a contract as a transaction. -/
  send : Address → Address → Abi.Call → ClientM σ TxOutcome
  /-- Executes a read-only call against a contract. -/
  read : Address → Abi.Call → ClientM σ (List Abi.Token)

/-- Runs a client operation from a state, returning its result and the new state. -/
def ClientM.runFrom {σ α : Type} (operation : ClientM σ α) (state : σ) :
    Logged (Except ClientError α × σ) :=
  (ExceptT.run operation).run state

/-- Runs an operation on the part of a larger state that `view` reads and `update` writes. -/
def ClientM.within {σ τ α : Type} (view : τ → σ) (update : τ → σ → τ) (operation : ClientM σ α) :
    ClientM τ α :=
  ExceptT.mk fun outer => do
    let (result, inner) ← operation.runFrom (view outer)
    pure (result, update outer inner)

end NftProbe
