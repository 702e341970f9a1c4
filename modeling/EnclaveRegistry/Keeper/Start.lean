import EnclaveRegistry.Genesis.Migration
import EnclaveRegistry.Keeper.Genesis
import EnclaveRegistry.Store.Memory

/-! # Starting from a document

A registry starts from an empty store, into which the state of a genesis document of any schema is
loaded.
-/
namespace EnclaveRegistry

inductive StartError where
  | document (error : Genesis.MigrationError)
  | state (error : KeeperError)
  deriving Inhabited

def StartError.message : StartError → String
  | document error => error.message
  | state error => error.message

structure Loaded where
  document : Genesis.Document Genesis.State
  store : MemoryStore
  deriving DecidableEq, Inhabited

/-- Reads a document and loads its state into an empty store. -/
def Keeper.start (keeper : Keeper) (text : Bytes) : Except StartError Loaded :=
  match Genesis.load text with
  | .error error => .error (.document error)
  | .ok document =>
    let load : Transaction MemoryStore Unit := keeper.loadGenesis document.state
    match load.run ⟨.empty, []⟩ with
    | (.ok _, session) => .ok ⟨document, session.store⟩
    | (.error error, _) => .error (.state error)

end EnclaveRegistry
