import EnclaveRegistry.Proofs.Keeper.Operation
import Mathlib

/-! # Registries as typed states

What a registry is for: the record of each node and at most one master key of each type. The same
operations as on a store of octets, which this machine needs neither keys nor encodings for, and
which change either everything that they are about or nothing.
-/
namespace EnclaveRegistry

namespace NodeId

instance : Ord NodeId := ⟨fun a b => compareOfLessAndEq a b⟩

theorem compare_eq_ite (a b : NodeId) :
    compare a b = if a < b then .lt else if a = b then .eq else .gt := rfl

theorem compare_eq_lt {a b : NodeId} : compare a b = .lt ↔ a < b := by
  rw [compare_eq_ite]
  split
  · simpa
  · split <;> simpa

theorem lt_iff_not_lt_and_ne (a b : NodeId) : a < b ↔ ¬ b < a ∧ a ≠ b := by
  constructor
  · intro h
    refine ⟨List.lt_asymm h, ?_⟩
    rintro rfl
    exact List.lt_irrefl a.octets h
  · rintro ⟨hnot, hne⟩
    have hoctets : a.octets ≠ b.octets := fun heq => hne (congrArg NodeId.mk heq)
    have hle : a.octets ≤ b.octets := Std.not_lt.1 hnot
    exact (Std.lt_of_le_of_ne hle hoctets : a.octets < b.octets)

instance : Std.TransOrd NodeId :=
  Std.TransOrd.compareOfLessAndEq_of_lt_trans_of_lt_iff List.lt_trans lt_iff_not_lt_and_ne

instance : Std.LawfulEqOrd NodeId where
  eq_of_compare {a b} h := by
    rw [compare_eq_ite] at h
    split at h
    · cases h
    · split at h
      · assumption
      · cases h

end NodeId

/-- The records of nodes and the master keys that are set. -/
structure Registry where
  records : Std.ExtTreeMap NodeId NodeRecord
  masterKey? : MasterKeyType → Option MasterKey

namespace Registry

def empty : Registry := ⟨∅, fun _ => none⟩

variable (registry : Registry)

def setRecord (id : NodeId) (record : NodeRecord) : Registry :=
  { registry with records := registry.records.insert id record }

def setMasterKey (type : MasterKeyType) (key : MasterKey) : Registry :=
  { registry with masterKey? := Function.update registry.masterKey? type (some key) }

theorem setRecord_records (id other : NodeId) (record : NodeRecord) :
    (registry.setRecord id record).records[other]? =
      if other = id then some record else registry.records[other]? := by
  rw [setRecord, Std.ExtTreeMap.getElem?_insert]
  by_cases h : other = id
  · simp [h]
  · simp [h, Ne.symm h]

theorem setMasterKey_masterKey? (type other : MasterKeyType) (key : MasterKey) :
    (registry.setMasterKey type key).masterKey? other =
      if other = type then some key else registry.masterKey? other :=
  Function.update_apply ..

def setMasterKey? (type : MasterKeyType) : Option MasterKey → Registry
  | some key => registry.setMasterKey type key
  | none => registry

def setRecords (records : List (NodeId × NodeRecord)) : Registry :=
  records.foldl (fun registry entry => registry.setRecord entry.1 entry.2) registry

/-- The seed that a node has been handed, if it is not empty. -/
def seed? (id : NodeId) : Option EncryptedSeed :=
  (registry.records[id]?).bind NodeRecord.provisionedSeed?

def isLocked (policy : MasterKeyPolicy) (type : MasterKeyType) : Bool :=
  policy == .setOnce && (registry.masterKey? type).isSome

def definedMasterKey? : Option MasterKeyType :=
  MasterKeyType.all.find? fun type => (registry.masterKey? type).isSome

def conflict? (policy : MasterKeyPolicy) (state : Genesis.State) : Option MasterKeyType :=
  MasterKeyType.all.find? fun type =>
    (state.masterKey? type).isSome && registry.isLocked policy type

def entries : List RegistrationEntry :=
  registry.records.toList.map fun entry => ⟨entry.1, entry.2⟩

theorem mem_entries {shown : RegistrationEntry} :
    shown ∈ registry.entries ↔ registry.records[shown.nodeId]? = some shown.record := by
  rw [← Std.ExtTreeMap.mem_toList_iff_getElem?_eq_some, entries, List.mem_map]
  constructor
  · rintro ⟨entry, hentry, rfl⟩
    exact hentry
  · intro hentry
    exact ⟨_, hentry, rfl⟩

theorem pairwise_entries : registry.entries.Pairwise fun a b => a.nodeId < b.nodeId := by
  refine List.pairwise_map.2 (registry.records.ordered_keys_toList.imp ?_)
  intro a b hab
  exact NodeId.compare_eq_lt.1 hab

theorem length_entries : registry.entries.length = registry.records.size := by
  rw [entries, List.length_map, Std.ExtTreeMap.length_toList]

/-- What is shown of entries, beyond what was before, until that is enough. -/
def shown (enough : List RegistrationEntry → Bool) :
    List RegistrationEntry → List RegistrationEntry → List RegistrationEntry
  | before, [] => before
  | before, entry :: rest =>
    let now := before ++ [entry]
    if enough now then now else shown enough now rest

theorem shown_never_enough (before entries : List RegistrationEntry) :
    shown (fun _ => false) before entries = before ++ entries := by
  induction entries generalizing before with
  | nil => simp [shown]
  | cons entry rest ih => simp [shown, ih]

def material (id : NodeId) : Except KeeperError BootstrapMaterial :=
  match registry.seed? id, registry.masterKey? .nodeExchange, registry.masterKey? .io with
  | none, _, _ => .error (.notAuthenticated id)
  | some _, none, _ => .error (.keyNotFound .nodeExchange)
  | some _, some _, none => .error (.keyNotFound .io)
  | some seed, some nodeExchangeKey, some ioKey => .ok ⟨seed, nodeExchangeKey, ioKey⟩

/-- The reply to a question, which nothing that is stored can make fail. -/
def reply : Inquiry → KeeperReply
  | .masterKey type => ⟨[], .ok (.masterKey (registry.masterKey? type))⟩
  | .isMasterKeyDefined type => ⟨[], .ok (.flag (registry.masterKey? type).isSome)⟩
  | .nodeRecord id => ⟨[], .ok (.record registry.records[id]?)⟩
  | .isAuthenticated id => ⟨[], .ok (.flag (registry.seed? id).isSome)⟩
  | .visit enough => ⟨shown enough [] registry.entries, .ok .done⟩
  | .count => ⟨[], .ok (.count registry.records.size)⟩
  | .bootstrapMaterial id => ⟨[], Answer.material <$> registry.material id⟩
  | .state => ⟨[], .ok (.state ⟨registry.entries.map RegistrationEntry.record,
      registry.masterKey? .nodeExchange, registry.masterKey? .io⟩)⟩

def provenBy (keeper : Keeper) : List NodeRecord → Except KeeperError (List (NodeId × NodeRecord))
  | [] => .ok []
  | record :: rest => do
    let identity ← keeper.identify record.certificate
    return (identity.nodeId, record) :: (← provenBy keeper rest)

/-- The answer to an update together with the registry that it makes, or why it fails. -/
def update (keeper : Keeper) : Update → Except KeeperError (Answer × Registry)
  | .setMasterKey type key =>
    if registry.isLocked keeper.policy type then .error (.alreadyDefined type)
    else .ok (.done, registry.setMasterKey type key)
  | .setRecord record => do
    let id := (← keeper.identify record.certificate).nodeId
    return (.node id, registry.setRecord id record)
  | .register certificate enclave => do
    let id := (← keeper.identify certificate).nodeId
    match registry.seed? id with
    | some seed => return (.seed id seed, registry)
    | none =>
      match enclave.encryptedSeed certificate.octets with
      | .error error => .error (.enclave error)
      | .ok seed => return (.seed id ⟨seed⟩, registry.setRecord id ⟨certificate, some ⟨seed⟩⟩)
  | .bootstrapNetwork certificate nodeExchangeKey ioKey enclave =>
    match registry.definedMasterKey? with
    | some type => .error (.alreadyDefined type)
    | none => do
      let identity ← keeper.identify certificate
      match enclave.genesisSeed identity.publicKey with
      | .error error => .error (.enclave error)
      | .ok seed =>
        let keyed := (registry.setMasterKey .nodeExchange nodeExchangeKey).setMasterKey .io ioKey
        return (.node identity.nodeId, keyed.setRecord identity.nodeId ⟨certificate, some ⟨seed⟩⟩)
  | .loadGenesis state => do
    state.validate
    match registry.conflict? keeper.policy state with
    | some type => .error (.alreadyDefined type)
    | none =>
      let proven ← provenBy keeper state.records
      let keyed :=
        (registry.setMasterKey? .nodeExchange state.nodeExchangeKey).setMasterKey? .io state.ioKey
      return (.done, keyed.setRecords proven)

def perform (keeper : Keeper) : Operation → KeeperReply × Registry
  | .update update =>
    match registry.update keeper update with
    | .ok (answer, after) => (⟨[], .ok answer⟩, after)
    | .error error => (⟨[], .error error⟩, registry)
  | .inquiry inquiry => (registry.reply inquiry, registry)

theorem perform_ok {registry after : Registry} {keeper : Keeper} {update : Update} {answer : Answer}
    (h : registry.update keeper update = .ok (answer, after)) :
    registry.perform keeper (.update update) = (⟨[], .ok answer⟩, after) := by
  rw [perform, h]

theorem perform_error {registry : Registry} {keeper : Keeper} {update : Update}
    {error : KeeperError} (h : registry.update keeper update = .error error) :
    registry.perform keeper (.update update) = (⟨[], .error error⟩, registry) := by
  rw [perform, h]

def run (keeper : Keeper) : List Operation → Registry → List KeeperReply × Registry
  | [], registry => ([], registry)
  | operation :: rest, registry =>
    let (reply, registry) := registry.perform keeper operation
    let (replies, registry) := run keeper rest registry
    (reply :: replies, registry)

end Registry
end EnclaveRegistry
