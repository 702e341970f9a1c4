import EnclaveRegistry.Keeper.Genesis
import EnclaveRegistry.Proofs.Schema.Record
import EnclaveRegistry.Store.Memory

/-! # Operations as data

What can be asked of a keeper, one operation after the other. An enclave comes with the operation
that calls it, so that it may answer differently each time.
-/
namespace EnclaveRegistry

/-- A keeper that takes a certificate for the public key that it proves, unless it is empty. -/
def Keeper.plain (policy : MasterKeyPolicy) : Keeper :=
  ⟨⟨.mock, fun octets => if octets = [] then .error .badSignature else .ok ⟨.mock, octets⟩⟩, policy⟩

/-- A transaction that may write to a registry. -/
inductive Update where
  | setMasterKey (type : MasterKeyType) (key : MasterKey)
  | setRecord (record : NodeRecord)
  | register (certificate : Certificate) (enclave : Enclave)
  | bootstrapNetwork (certificate : Certificate) (nodeExchangeKey ioKey : MasterKey)
      (enclave : Enclave)
  | loadGenesis (state : Genesis.State)
  deriving Inhabited

/-- A question to a registry. A visitor is known by when it has seen enough entries. -/
inductive Inquiry where
  | masterKey (type : MasterKeyType)
  | isMasterKeyDefined (type : MasterKeyType)
  | nodeRecord (id : NodeId)
  | isAuthenticated (id : NodeId)
  | visit (enough : List RegistrationEntry → Bool)
  | count
  | bootstrapMaterial (id : NodeId)
  | state
  deriving Inhabited

/-- Something that is asked of a keeper. -/
inductive Operation where
  | update (update : Update)
  | inquiry (inquiry : Inquiry)
  deriving Inhabited

inductive Answer where
  | done
  | node (id : NodeId)
  | seed (id : NodeId) (seed : EncryptedSeed)
  | masterKey (key : Option MasterKey)
  | flag (value : Bool)
  | record (record : Option NodeRecord)
  | count (records : Nat)
  | material (material : BootstrapMaterial)
  | state (state : Genesis.State)
  deriving DecidableEq, Inhabited

/-- The entries that an operation has shown to a visitor, and its answer or why it fails. -/
structure KeeperReply where
  visited : List RegistrationEntry
  result : Except KeeperError Answer
  deriving Inhabited

variable {σ : Type} [KeyValueStore σ]

def Query.visited (store : σ) (enough : List RegistrationEntry → Bool) :
    List RegistrationEntry × Except KeeperError Unit :=
  visit store (fun seen entry => (seen ++ [entry], enough (seen ++ [entry]))) []

def Inquiry.reply (store : σ) : Inquiry → KeeperReply
  | masterKey type => ⟨[], Answer.masterKey <$> Query.masterKey store type⟩
  | isMasterKeyDefined type => ⟨[], .ok (.flag (Query.isMasterKeyDefined store type))⟩
  | nodeRecord id => ⟨[], Answer.record <$> Query.nodeRecord store id⟩
  | isAuthenticated id => ⟨[], Answer.flag <$> Query.isAuthenticated store id⟩
  | visit enough =>
    let (seen, result) := Query.visited store enough
    ⟨seen, (fun _ => Answer.done) <$> result⟩
  | count => ⟨[], Answer.count <$> Query.count store⟩
  | bootstrapMaterial id => ⟨[], Answer.material <$> Query.bootstrapMaterial store id⟩
  | state => ⟨[], Answer.state <$> Query.state store⟩

def Update.perform (keeper : Keeper) : Update → Transaction σ Answer
  | setMasterKey type key => (fun _ => Answer.done) <$> keeper.setMasterKey type key
  | setRecord record => Answer.node <$> keeper.setRecord record
  | register certificate enclave =>
    (fun answer => Answer.seed answer.1 answer.2) <$> keeper.register certificate enclave
  | bootstrapNetwork certificate nodeExchangeKey ioKey enclave =>
    Answer.node <$> keeper.bootstrapNetwork certificate nodeExchangeKey ioKey enclave
  | loadGenesis state => (fun _ => Answer.done) <$> keeper.loadGenesis state

def Operation.perform (keeper : Keeper) (session : Session σ) : Operation → KeeperReply × Session σ
  | update u =>
    let (result, session) := (u.perform keeper).run session
    (⟨[], result⟩, session)
  | inquiry i => (i.reply session.store, session)

def Keeper.run (keeper : Keeper) : List Operation → Session σ → List KeeperReply × Session σ
  | [], session => ([], session)
  | operation :: rest, session =>
    let (reply, session) := operation.perform keeper session
    let (replies, session) := keeper.run rest session
    (reply :: replies, session)

def Keeper.storeAfter (keeper : Keeper) (operations : List Operation) : MemoryStore :=
  (keeper.run operations ⟨.empty, []⟩).2.store

/-! ## Payloads -/

namespace Update

/-- Whether an update carries a record, the seed that its enclave answers included. -/
def Carries : Update → NodeRecord → Prop
  | setMasterKey _ _, _ => False
  | setRecord record, other => other = record
  | register certificate enclave, record => ∃ seed,
    enclave.encryptedSeed certificate.octets = .ok seed ∧ record = ⟨certificate, some ⟨seed⟩⟩
  | bootstrapNetwork certificate _ _ enclave, record => ∃ publicKey seed,
    enclave.genesisSeed publicKey = .ok seed ∧ record = ⟨certificate, some ⟨seed⟩⟩
  | loadGenesis state, record => record ∈ state.records

def CarriesKey : Update → MasterKeyType → MasterKey → Prop
  | setMasterKey type key, type', key' => type' = type ∧ key' = key
  | setRecord _, _, _ => False
  | register _ _, _, _ => False
  | bootstrapNetwork _ nodeExchangeKey _ _, .nodeExchange, key => key = nodeExchangeKey
  | bootstrapNetwork _ _ ioKey _, .io, key => key = ioKey
  | loadGenesis state, type, key => state.masterKey? type = some key

/-- Whether all that an update carries is shorter than `2 ^ 64` octets. -/
def Fits (update : Update) : Prop :=
  (∀ record, update.Carries record → record.Fits) ∧
    ∀ type key, update.CarriesKey type key → key.Fits

end Update

def Operation.Fits : Operation → Prop
  | update u => u.Fits
  | inquiry _ => True

def Operation.sample : List Operation :=
  [.update (.setMasterKey .io ⟨[1]⟩), .update (.setRecord ⟨⟨[7]⟩, none⟩), .inquiry .count]

theorem Operation.sample_fits : ∀ operation ∈ sample, operation.Fits := by
  intro operation hoperation
  simp only [sample, List.mem_cons, List.not_mem_nil, or_false] at hoperation
  rcases hoperation with rfl | rfl | rfl
  · refine ⟨nofun, ?_⟩
    rintro type key ⟨rfl, rfl⟩
    exact (by decide : 1 < UInt64.size)
  · refine ⟨?_, nofun⟩
    rintro record rfl
    exact ⟨by decide, nofun⟩
  · trivial

def Session.sample : Session MemoryStore :=
  ⟨(Keeper.plain .overwrite).storeAfter Operation.sample, []⟩

end EnclaveRegistry
