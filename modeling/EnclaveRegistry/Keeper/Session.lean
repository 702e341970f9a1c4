import EnclaveRegistry.Keeper.Enclave
import EnclaveRegistry.Keeper.Notice
import EnclaveRegistry.Store.Basic

/-! # Sessions

An operation works on a store and leaves a trace: the entries it writes, the notices it gives and
the calls it makes, in order. Store and trace survive its failure.
-/
namespace EnclaveRegistry

inductive Event where
  | wrote (key value : Bytes)
  | noticed (notice : Notice)
  | called (call : EnclaveCall)
  deriving Inhabited

/-- A store and what has happened so far. -/
structure Session (σ : Type) where
  store : σ
  trace : List Event
  deriving Inhabited

/-- An operation on a store of type `σ`. -/
abbrev Transaction (σ α : Type) := ExceptT KeeperError (StateM (Session σ)) α

namespace Transaction

variable {σ α : Type}

def refuse (error : KeeperError) : Transaction σ α := throw error

def record (event : Event) : Transaction σ Unit :=
  modify fun session => ⟨session.store, session.trace ++ [event]⟩

def notice (notice : Notice) : Transaction σ Unit := record (.noticed notice)

def store : Transaction σ σ := do return (← get).store

def write [KeyValueStore σ] (key value : Bytes) : Transaction σ Unit := do
  modify fun session => ⟨KeyValueStore.set session.store key value, session.trace⟩
  record (.wrote key value)

def call (call : EnclaveCall) (answer : Except EnclaveError α) : Transaction σ α := do
  record (.called call)
  match answer with
  | .ok a => return a
  | .error error => refuse (.enclave error)

end Transaction
end EnclaveRegistry
