import EnclaveRegistry.Genesis.Document
import EnclaveRegistry.Keeper.Basic

/-! # Genesis states in and out

A state is loaded through the keeper's own operations, so that every record stands under the
identity that its certificate proves. All that could fail is checked before the first write.
-/
namespace EnclaveRegistry

open Genesis (State)
open Transaction (notice refuse store)

def Genesis.State.validate (state : State) : Except KeeperError Unit :=
  match state.records.findIdx? fun record => record.certificate.octets.isEmpty with
  | some index => .error (.emptyCertificate index)
  | none => .ok ()

namespace Keeper

variable {σ : Type} [KeyValueStore σ] (keeper : Keeper)

/-- The first master key of a state that the policy forbids to set. -/
def conflict? (s : σ) (state : State) : Option MasterKeyType :=
  MasterKeyType.all.find? fun type => (state.masterKey? type).isSome && keeper.isLocked s type

/-- Checks the certificates of records; `index` counts the records before them. -/
def checkRecords : (index : Nat) → List NodeRecord → Transaction σ Unit
  | _, [] => return ()
  | index, record :: rest => do
    match keeper.verifier.verify record.certificate.octets with
    | .ok _ => checkRecords (index + 1) rest
    | .error error =>
      notice (.genesisRecordRefused index error)
      refuse (.invalidCertificate error)

def setMasterKey? (type : MasterKeyType) : Option MasterKey → Transaction σ Unit
  | some key => keeper.setMasterKey type key
  | none => return ()

def setRecords : List NodeRecord → Transaction σ Unit
  | [] => return ()
  | record :: rest => do
    discard (keeper.setRecord record)
    setRecords rest

def loadGenesis (state : State) : Transaction σ Unit := do
  ofExcept state.validate
  match keeper.conflict? (← store) state with
  | some type => refuse (.alreadyDefined type)
  | none =>
    keeper.checkRecords 0 state.records
    keeper.setMasterKey? .nodeExchange state.nodeExchangeKey
    keeper.setMasterKey? .io state.ioKey
    keeper.setRecords state.records
    notice (.genesisLoaded state.records.length)

end Keeper

def Query.state {σ : Type} [KeyValueStore σ] (store : σ) : Except KeeperError State := do
  return ⟨(← entries store).map fun entry => entry.record, ← masterKey store .nodeExchange,
    ← masterKey store .io⟩

end EnclaveRegistry
