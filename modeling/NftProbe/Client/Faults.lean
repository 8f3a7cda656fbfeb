import NftProbe.Client.Interface
import NftProbe.Table

/-!
# Injected client faults

`Client.withFaults` wraps a client so that chosen operations fail, or answer with chosen
values, while everything else goes to the wrapped client unchanged. A failing operation does
not reach the wrapped client. Block reads and overridden contract reads are counted from the
moment their fault is set, so a fault can start after a number of calls.
-/

set_option autoImplicit false

namespace NftProbe

open Abi

/-- The faults to inject. -/
structure Faults where
  signersFail : Bool := false
  /-- The signers to report instead of the wrapped client's. -/
  signers : Option (List Address) := none
  balanceFail : Bool := false
  snapshotFail : Bool := false
  deployFail : Bool := false
  sendFail : Bool := false
  /-- The chain id to report in block reads from the given count on. -/
  snapshotChainId : Option (Nat × Nat) := none
  snapshotCalls : Nat := 0
  /-- Reads of these functions fail with the given reason. -/
  readFail : Table String String := []
  /-- Reads of these functions answer with the given values from the given count on. -/
  readOverride : Table String (List Token × Nat) := []
  readCounts : Table String Nat := []

namespace Faults

/-- Sets the chain id reported by block reads, counting them afresh. -/
def withSnapshotChainId (faults : Faults) (value : Option (Nat × Nat)) : Faults :=
  { faults with snapshotChainId := value, snapshotCalls := 0 }

/-- Sets the overridden reads, counting them afresh. -/
def withReadOverride (faults : Faults) (table : Table String (List Token × Nat)) : Faults :=
  { faults with readOverride := table, readCounts := [] }

end Faults

/-- A client's state together with the faults to inject. -/
structure Faulty (σ : Type) where
  inner : σ
  faults : Faults := {}

namespace Faulty

variable {σ : Type}

/-- Runs an operation of the wrapped client. -/
def forward {α : Type} (operation : ClientM σ α) : ClientM (Faulty σ) α :=
  operation.within Faulty.inner fun state inner => { state with inner }

/-- The current faults. -/
def current : ClientM (Faulty σ) Faults := do
  pure (← getThe (Faulty σ)).faults

/-- Changes the faults. -/
def adjust (f : Faults → Faults) : ClientM (Faulty σ) Unit :=
  modifyThe (Faulty σ) fun state => { state with faults := f state.faults }

/-- The failure of an operation that is set to fail. -/
def injected (operation : String) : ClientError :=
  .transport ("injected fault: " ++ operation)

end Faulty

open Faulty

/-- `client` with faults injected. -/
def Client.withFaults {σ : Type} (client : Client σ) : Client (Faulty σ) where
  chainId := forward client.chainId
  signers := do
    let faults ← current
    if faults.signersFail then throw (injected "get_signer_identities")
    match faults.signers with
    | some signers => pure signers
    | none => forward client.signers
  balance account := do
    if (← current).balanceFail then throw (injected "get_balance")
    forward (client.balance account)
  snapshot := do
    let faults ← current
    adjust fun faults => { faults with snapshotCalls := faults.snapshotCalls + 1 }
    if faults.snapshotFail then throw (injected "get_block_snapshot")
    let snapshot ← forward client.snapshot
    match faults.snapshotChainId with
    | some (value, after) =>
      pure (if after ≤ faults.snapshotCalls then { snapshot with chainId := value } else snapshot)
    | none => pure snapshot
  deploy source bytecode args := do
    if (← current).deployFail then throw (injected "deploy_contract")
    forward (client.deploy source bytecode args)
  send source target call := do
    if (← current).sendFail then throw (injected "send_transaction")
    forward (client.send source target call)
  read target call := do
    let faults ← current
    match faults.readFail.get? call.name with
    | some reason => throw (.execution reason)
    | none =>
      match faults.readOverride.get? call.name with
      | some (tokens, after) =>
        let count := (faults.readCounts.get? call.name).getD 0
        adjust fun faults => { faults with readCounts := faults.readCounts.insert call.name (count + 1) }
        if after ≤ count then pure tokens else forward (client.read target call)
      | none => forward (client.read target call)

end NftProbe
