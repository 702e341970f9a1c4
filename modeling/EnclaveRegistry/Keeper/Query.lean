import EnclaveRegistry.Keeper.Error
import EnclaveRegistry.Node.Exchange
import EnclaveRegistry.Store.Basic
import EnclaveRegistry.Store.Key

/-! # Reading a registry

Queries look entries up and read their values. That something is not there is an answer and no
failure, except where bootstrap material is asked for.
-/
namespace EnclaveRegistry.Query

open KeyValueStore (get? scan)
open Schema (Described)

variable {σ : Type} [KeyValueStore σ]

def decode (α : Type) [Described α] (value : Bytes) : Except KeeperError α :=
  match Schema.ofRecord α value with
  | .ok a => .ok a
  | .error fault => .error (.badEntry (.value fault))

def lookup (α : Type) [Described α] (store : σ) (key : Bytes) : Except KeeperError (Option α) :=
  match get? store key with
  | none => .ok none
  | some value => some <$> decode α value

def masterKey (store : σ) (type : MasterKeyType) : Except KeeperError (Option MasterKey) :=
  lookup MasterKey store type.storeKey

def isMasterKeyDefined (store : σ) (type : MasterKeyType) : Bool :=
  (get? store type.storeKey).isSome

def nodeRecord (store : σ) (id : NodeId) : Except KeeperError (Option NodeRecord) :=
  lookup NodeRecord store id.storeKey

def provisionedSeed (store : σ) (id : NodeId) : Except KeeperError (Option EncryptedSeed) := do
  return (← nodeRecord store id).bind NodeRecord.provisionedSeed?

/-- Whether a node has been handed a seed. -/
def isAuthenticated (store : σ) (id : NodeId) : Except KeeperError Bool := do
  return (← nodeRecord store id).any NodeRecord.isProvisioned

def entryOf (entry : Entry) : Except KeeperError RegistrationEntry :=
  match NodeId.ofStoreKey? entry.1 with
  | none => .error (.badEntry .foreignKey)
  | some id => do return ⟨id, ← decode NodeRecord entry.2⟩

/-- Visits entries in order until a visit answers that it is enough. What the visits have come to
is kept when an entry cannot be read. -/
def visitEntries {α : Type} (visit : α → RegistrationEntry → α × Bool) :
    α → List Entry → α × Except KeeperError Unit
  | state, [] => (state, .ok ())
  | state, entry :: rest =>
    match entryOf entry with
    | .error error => (state, .error error)
    | .ok entry =>
      match visit state entry with
      | (state, true) => (state, .ok ())
      | (state, false) => visitEntries visit state rest

def visit {α : Type} (store : σ) (visit : α → RegistrationEntry → α × Bool) (state : α) :
    α × Except KeeperError Unit :=
  visitEntries visit state (scan store registrationPrefix)

def collect (limit : Option Nat) (entries : List RegistrationEntry) (entry : RegistrationEntry) :
    List RegistrationEntry × Bool :=
  let entries := entries ++ [entry]
  (entries, limit.any fun limit => limit ≤ entries.length)

def entriesUpTo (store : σ) (limit : Option Nat) : Except KeeperError (List RegistrationEntry) :=
  if limit = some 0 then .ok []
  else
    match visit store (collect limit) [] with
    | (entries, .ok _) => .ok entries
    | (_, .error error) => .error error

def entries (store : σ) : Except KeeperError (List RegistrationEntry) := entriesUpTo store none

def count (store : σ) : Except KeeperError Nat := List.length <$> entries store

def requireMasterKey (store : σ) (type : MasterKeyType) : Except KeeperError MasterKey := do
  match ← masterKey store type with
  | some key => return key
  | none => .error (.keyNotFound type)

def bootstrapMaterial (store : σ) (id : NodeId) : Except KeeperError BootstrapMaterial := do
  let seed? := (← nodeRecord store id).bind NodeRecord.seed
  match seed?.filter fun seed => !seed.octets.isEmpty with
  | none => .error (.notAuthenticated id)
  | some seed =>
    return ⟨seed, ← requireMasterKey store .nodeExchange, ← requireMasterKey store .io⟩

end EnclaveRegistry.Query
