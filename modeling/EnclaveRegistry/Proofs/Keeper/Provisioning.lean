import EnclaveRegistry.Proofs.Keeper.EnclaveCall
import EnclaveRegistry.Proofs.Keeper.Footprint

/-! # Who has been handed a seed

Whether a node has been handed a seed is asked in three places: when its status is told, when it
registers again, and when it asks for its bootstrap material. All of them go by the record under
the node's key, and they come to the same answer whatever stands there.
-/
namespace EnclaveRegistry

/-! ## What a lookup says about the stored value -/

/-- Whether there is a value under a key that cannot be read, which makes an operation fail. -/
inductive Unreadable (α : Type) [Schema.Described α] (store : MemoryStore) (key : Bytes) :
    KeeperError → Prop
  | broken {value fault} (stored : KeyValueStore.get? store key = some value)
      (fails : Schema.ofRecord α value = .error fault) :
    Unreadable α store key (.badEntry (.value fault))

def Holds {α : Type} [Schema.Described α] (store : MemoryStore) (key : Bytes) (a : α) : Prop :=
  ∃ value, KeyValueStore.get? store key = some value ∧ Schema.ofRecord α value = .ok a

/-- Whether the record of a node has a seed that is not empty. -/
def HasSeed (store : MemoryStore) (id : NodeId) (seed : EncryptedSeed) : Prop :=
  ∃ record : NodeRecord, Holds store id.storeKey record ∧ record.seed = some seed ∧
    seed.octets ≠ []

/-- What keeps a master key from being handed out: it is not there, or it cannot be read. -/
inductive LacksKey (store : MemoryStore) (type : MasterKeyType) : KeeperError → Prop
  | missing (missing : KeyValueStore.get? store type.storeKey = none) :
    LacksKey store type (.keyNotFound type)
  | unreadable {error} (unreadable : Unreadable MasterKey store type.storeKey error) :
    LacksKey store type error

namespace Query

open Result (bind_eq_ok_iff)
open Schema (Described)

variable {store : MemoryStore} {id : NodeId} {error : KeeperError}

theorem lookup_eq_error_iff {α : Type} [Described α] {key : Bytes} :
    lookup α store key = .error error ↔ Unreadable α store key error := by
  rw [lookup]
  constructor
  · intro h
    cases hget : KeyValueStore.get? store key with
    | none => simp [hget] at h
    | some value =>
      cases hread : Schema.ofRecord α value with
      | ok a => simp [hget, decode, hread] at h
      | error fault =>
        simp only [hget, decode, hread] at h
        cases h
        exact .broken hget hread
  · rintro ⟨hget, hread⟩
    simp only [hget, decode, hread]
    rfl

theorem lookup_eq_ok_iff_holds {α : Type} [Described α] {key : Bytes} {a : α} :
    lookup α store key = .ok (some a) ↔ Holds store key a := by
  rw [lookup_eq_ok_some_iff]
  refine exists_congr fun value => and_congr_right fun _ => ?_
  rw [decode]
  cases Schema.ofRecord α value <;> simp

/-! ## The seed of a node -/

theorem provisionedSeed_eq_error_iff :
    provisionedSeed store id = .error error ↔ Unreadable NodeRecord store id.storeKey error := by
  rw [← lookup_eq_error_iff, provisionedSeed, nodeRecord]
  cases lookup NodeRecord store id.storeKey <;> simp

theorem provisionedSeed_eq_ok_some_iff {seed : EncryptedSeed} :
    provisionedSeed store id = .ok (some seed) ↔ HasSeed store id seed := by
  unfold HasSeed
  simp only [← lookup_eq_ok_iff_holds, ← NodeRecord.provisionedSeed?_eq_some_iff]
  rw [provisionedSeed, nodeRecord]
  cases lookup NodeRecord store id.storeKey with
  | error error => simp
  | ok record => simp [Option.bind_eq_some_iff]

theorem isAuthenticated_eq_true_iff :
    isAuthenticated store id = .ok true ↔ ∃ seed, HasSeed store id seed := by
  simp only [← provisionedSeed_eq_ok_some_iff]
  rw [isAuthenticated_eq]
  rcases provisionedSeed store id with error | _ | seed <;> simp [Except.map]

theorem isAuthenticated_eq_false_iff :
    isAuthenticated store id = .ok false ↔ LacksSeed store id := by
  rw [← provisionedSeed_eq_ok_none_iff, isAuthenticated_eq]
  rcases provisionedSeed store id with error | _ | seed <;> simp [Except.map]

theorem isAuthenticated_eq_error_iff : isAuthenticated store id = .error error ↔
    Unreadable NodeRecord store id.storeKey error := by
  rw [← provisionedSeed_eq_error_iff, isAuthenticated_eq]
  cases provisionedSeed store id <;> simp [Except.map]

theorem isAuthenticated_of_nodeRecord {record : NodeRecord}
    (h : nodeRecord store id = .ok (some record)) :
    isAuthenticated store id = .ok record.isProvisioned := by
  rw [isAuthenticated, h]
  rfl

/-! ## The material of a node -/

theorem requireMasterKey_eq_ok_iff {type : MasterKeyType} {key : MasterKey} :
    requireMasterKey store type = .ok key ↔ masterKey store type = .ok (some key) := by
  rw [requireMasterKey]
  rcases masterKey store type with error | _ | found <;> simp

theorem requireMasterKey_eq_error_iff {type : MasterKeyType} :
    requireMasterKey store type = .error error ↔ LacksKey store type error := by
  constructor
  · intro h
    rw [requireMasterKey, masterKey] at h
    cases hfound : lookup MasterKey store type.storeKey with
    | error problem =>
      rw [hfound] at h
      cases h
      exact .unreadable (lookup_eq_error_iff.1 hfound)
    | ok found =>
      rw [hfound] at h
      cases found with
      | none =>
        cases h
        exact .missing (lookup_eq_ok_none_iff.1 hfound)
      | some key => cases h
  · rintro (hmissing | hunreadable)
    · rw [requireMasterKey, masterKey, lookup_eq_ok_none_iff.2 hmissing]
      rfl
    · rw [requireMasterKey, masterKey, lookup_eq_error_iff.2 hunreadable]
      rfl

theorem bootstrapMaterial_eq_ok_iff {seed : EncryptedSeed} (h : HasSeed store id seed)
    {material : BootstrapMaterial} : bootstrapMaterial store id = .ok material ↔
      ∃ nodeExchangeKey ioKey : MasterKey,
        Holds store MasterKeyType.nodeExchange.storeKey nodeExchangeKey ∧
        Holds store MasterKeyType.io.storeKey ioKey ∧
        material = ⟨seed, nodeExchangeKey, ioKey⟩ := by
  rw [bootstrapMaterial_eq, provisionedSeed_eq_ok_some_iff.2 h, Result.ok_bind]
  simp only [bind_eq_ok_iff, requireMasterKey_eq_ok_iff, masterKey, lookup_eq_ok_iff_holds,
    Result.pure_eq_ok, Except.ok.injEq, eq_comm (b := material), ← exists_and_left]

/-- What is wrong with the key for exchanges is told before what is wrong with the other one. -/
theorem bootstrapMaterial_eq_error_iff {seed : EncryptedSeed} (h : HasSeed store id seed) :
    bootstrapMaterial store id = .error error ↔ LacksKey store .nodeExchange error ∨
      (∃ key : MasterKey, Holds store MasterKeyType.nodeExchange.storeKey key) ∧
        LacksKey store .io error := by
  simp only [← requireMasterKey_eq_error_iff, ← lookup_eq_ok_iff_holds]
  rw [bootstrapMaterial_eq, provisionedSeed_eq_ok_some_iff.2 h, Result.ok_bind]
  have hnode (key : MasterKey) : lookup MasterKey store MasterKeyType.nodeExchange.storeKey =
      .ok (some key) ↔ requireMasterKey store .nodeExchange = .ok key :=
    requireMasterKey_eq_ok_iff.symm
  simp only [hnode]
  cases requireMasterKey store .nodeExchange with
  | error problem => simp
  | ok key => cases requireMasterKey store .io <;> simp

theorem bootstrapMaterial_eq_notAuthenticated_iff :
    bootstrapMaterial store id = .error (.notAuthenticated id) ↔ LacksSeed store id := by
  constructor
  · intro h
    cases hseed : provisionedSeed store id with
    | error problem =>
      rw [bootstrapMaterial_eq, hseed] at h
      cases h
      cases provisionedSeed_eq_error_iff.1 hseed
    | ok found =>
      cases found with
      | none => exact provisionedSeed_eq_ok_none_iff.1 hseed
      | some seed =>
        -- A missing or unreadable master key is no missing seed.
        rcases (bootstrapMaterial_eq_error_iff (provisionedSeed_eq_ok_some_iff.1 hseed)).1 h with
          hproblem | ⟨-, hproblem⟩ <;> rcases hproblem with ⟨⟩ | ⟨⟨⟩⟩
  · intro h
    rw [bootstrapMaterial_eq, provisionedSeed_eq_ok_none_iff.2 h]
    rfl

theorem bootstrapMaterial_of_unreadable (h : Unreadable NodeRecord store id.storeKey error) :
    bootstrapMaterial store id = .error error := by
  rw [bootstrapMaterial_eq, provisionedSeed_eq_error_iff.2 h]
  rfl

end Query

/-! ## Registering again -/

/-- Whether an operation succeeds with an answer and neither writes anything nor calls the
enclave. -/
structure Operation.Recalls (keeper : Keeper) (session : Session MemoryStore)
    (operation : Operation) (answer : Answer) : Prop where
  result : (operation.perform keeper session).1.result = .ok answer
  unwritten : Event.entries (operation.events keeper session) = []
  uncalled : operation.calls keeper session = []

namespace Keeper

variable {keeper : Keeper} {session : Session MemoryStore} {certificate : Certificate}
  {identity : Identity} {enclave : Enclave}

theorem recalls_register_iff (haccepted : keeper.Accepts certificate identity) {answer : Answer} :
    (Operation.update (.register certificate enclave)).Recalls keeper session answer ↔
      ∃ seed, HasSeed session.store identity.nodeId seed ∧
        answer = .seed identity.nodeId seed := by
  simp only [← Query.provisionedSeed_eq_ok_some_iff]
  constructor
  · rintro ⟨hresult, -, huncalled⟩
    obtain ⟨result, events, hends, hperform⟩ :=
      Operation.perform_update keeper session (.register certificate enclave)
    rw [hperform] at hresult
    rw [Operation.calls, Operation.events_of_perform hperform] at huncalled
    cases hends with
    | registrationRefused => cases hresult
    | registrationUnreadable => cases hresult
    | registrationKnown accepted known =>
      cases haccepted.unique accepted
      exact ⟨_, known, (Except.ok.inj hresult).symm⟩
    | registrationFailed => cases huncalled
    | registered => cases huncalled
  · rintro ⟨seed, hseed, rfl⟩
    have hends : Update.Ends keeper session.store (.register certificate enclave)
        (.ok (.seed identity.nodeId seed)) [.noticed (.seedReturned identity.nodeId)] :=
      .registrationKnown haccepted hseed
    have hevents := Operation.events_of_perform hends.perform
    exact ⟨by rw [hends.perform], by rw [hevents]; rfl, by rw [Operation.calls, hevents]; rfl⟩

theorem perform_register_of_unreadable {error : KeeperError}
    (haccepted : keeper.Accepts certificate identity)
    (h : Unreadable NodeRecord session.store identity.nodeId.storeKey error) :
    (Operation.update (.register certificate enclave)).perform keeper session =
      (⟨[], .error error⟩, session) := by
  have hends : Update.Ends keeper session.store (.register certificate enclave) (.error error) [] :=
    .registrationUnreadable haccepted (Query.provisionedSeed_eq_error_iff.2 h)
  rw [hends.perform, Session.after_nil]

/-- Whatever a store holds, all that goes by a node's seed agrees. A node counts as authenticated
exactly if its registration is answered from the store, with the seed that its record holds, and as
not authenticated exactly if it is denied its material for that reason. A record that cannot be read
makes all of them fail alike. A node that is authenticated lacks its material only for a master
key, and that for exchanges is looked at first. -/
theorem provisioning_is_decided_alike (keeper : Keeper) (session : Session MemoryStore)
    (certificate : Certificate) (id : NodeId) (hid : keeper.Identifies certificate id) :
    (∀ enclave, Query.isAuthenticated session.store id = .ok true ↔ ∃ answer,
      (Operation.update (.register certificate enclave)).Recalls keeper session answer) ∧
    (∀ enclave answer,
      (Operation.update (.register certificate enclave)).Recalls keeper session answer →
        ∃ seed, HasSeed session.store id seed ∧ answer = .seed id seed) ∧
    (∀ record, Query.nodeRecord session.store id = .ok (some record) →
      Query.isAuthenticated session.store id = .ok record.isProvisioned) ∧
    (Query.isAuthenticated session.store id = .ok false ↔
      Query.bootstrapMaterial session.store id = .error (.notAuthenticated id)) ∧
    (KeyValueStore.get? session.store id.storeKey = none →
      Query.isAuthenticated session.store id = .ok false) ∧
    (∀ error, Unreadable NodeRecord session.store id.storeKey error →
      Query.isAuthenticated session.store id = .error error ∧
      Query.nodeRecord session.store id = .error error ∧
      Query.bootstrapMaterial session.store id = .error error ∧
      ∀ enclave, (Operation.update (.register certificate enclave)).perform keeper session =
        (⟨[], .error error⟩, session)) ∧
    (Query.isAuthenticated session.store id = .ok true →
      ∃ seed, HasSeed session.store id seed ∧
        (∀ material, Query.bootstrapMaterial session.store id = .ok material ↔
          ∃ nodeExchangeKey ioKey : MasterKey,
            Holds session.store MasterKeyType.nodeExchange.storeKey nodeExchangeKey ∧
            Holds session.store MasterKeyType.io.storeKey ioKey ∧
            material = ⟨seed, nodeExchangeKey, ioKey⟩) ∧
        ∀ error, Query.bootstrapMaterial session.store id = .error error ↔
          LacksKey session.store .nodeExchange error ∨
          (∃ key : MasterKey, Holds session.store MasterKeyType.nodeExchange.storeKey key) ∧
            LacksKey session.store .io error) := by
  obtain ⟨identity, haccepted, rfl⟩ := hid
  refine ⟨fun enclave => ?_, fun enclave answer => (recalls_register_iff haccepted).1,
    fun record => Query.isAuthenticated_of_nodeRecord, ?_, fun hmissing => ?_, ?_, ?_⟩
  · rw [Query.isAuthenticated_eq_true_iff]
    simp only [recalls_register_iff haccepted]
    constructor
    · rintro ⟨seed, hseed⟩
      exact ⟨_, seed, hseed, rfl⟩
    · rintro ⟨_, seed, hseed, rfl⟩
      exact ⟨seed, hseed⟩
  · rw [Query.isAuthenticated_eq_false_iff, Query.bootstrapMaterial_eq_notAuthenticated_iff]
  · exact Query.isAuthenticated_eq_false_iff.2 (.inl hmissing)
  · intro error hunreadable
    exact ⟨Query.isAuthenticated_eq_error_iff.2 hunreadable,
      Query.lookup_eq_error_iff.2 hunreadable, Query.bootstrapMaterial_of_unreadable hunreadable,
      fun enclave => perform_register_of_unreadable haccepted hunreadable⟩
  · intro hauthenticated
    obtain ⟨seed, hseed⟩ := Query.isAuthenticated_eq_true_iff.1 hauthenticated
    exact ⟨seed, hseed, fun material => Query.bootstrapMaterial_eq_ok_iff hseed,
      fun error => Query.bootstrapMaterial_eq_error_iff hseed⟩

def damagedSession : Session MemoryStore :=
  ⟨writeAll .empty [recordEntry ⟨[7]⟩ (seededRecord ⟨[7]⟩ [9]), ((NodeId.mk [8]).storeKey, [0]),
    (MasterKeyType.nodeExchange.storeKey, [])], []⟩

theorem provisioning_is_decided_alike_damaged :
    ((Keeper.plain .setOnce).Identifies ⟨[7]⟩ ⟨[7]⟩ ∧
      Query.isAuthenticated damagedSession.store ⟨[7]⟩ = .ok true ∧
      (Operation.update (.register ⟨[7]⟩ .mock)).Recalls (.plain .setOnce) damagedSession
        (.seed ⟨[7]⟩ ⟨[9]⟩) ∧
      Query.bootstrapMaterial damagedSession.store ⟨[7]⟩ =
        .error (.badEntry (.value .numberCut))) ∧
    ((Keeper.plain .setOnce).Identifies ⟨[8]⟩ ⟨[8]⟩ ∧
      Unreadable NodeRecord damagedSession.store (NodeId.mk [8]).storeKey
        (.badEntry (.value .numberCut)) ∧
      (Operation.update (.register ⟨[8]⟩ .mock)).perform (.plain .setOnce) damagedSession =
        (⟨[], .error (.badEntry (.value .numberCut))⟩, damagedSession)) ∧
    (Keeper.plain .setOnce).Identifies ⟨[6]⟩ ⟨[6]⟩ ∧
      KeyValueStore.get? damagedSession.store (NodeId.mk [6]).storeKey = none ∧
      Query.bootstrapMaterial damagedSession.store ⟨[6]⟩ = .error (.notAuthenticated ⟨[6]⟩) := by
  have hidentifies (octet : UInt8) : (Keeper.plain .setOnce).Identifies ⟨[octet]⟩ ⟨[octet]⟩ :=
    ⟨⟨.mock, [octet]⟩, rfl, rfl⟩
  have hauthenticated : Query.isAuthenticated damagedSession.store ⟨[7]⟩ = .ok true := rfl
  have hunreadable : Unreadable NodeRecord damagedSession.store (NodeId.mk [8]).storeKey
      (.badEntry (.value .numberCut)) := .broken rfl rfl
  have hmissing : KeyValueStore.get? damagedSession.store (NodeId.mk [6]).storeKey = none := rfl
  have hkeyless : LacksKey damagedSession.store .nodeExchange (.badEntry (.value .numberCut)) :=
    .unreadable (.broken rfl rfl)
  obtain ⟨hrecalls, hseeded, -, -, -, -, hmaterial⟩ :=
    provisioning_is_decided_alike (.plain .setOnce) damagedSession ⟨[7]⟩ ⟨[7]⟩ (hidentifies 7)
  obtain ⟨-, -, -, -, -, hfails, -⟩ :=
    provisioning_is_decided_alike (.plain .setOnce) damagedSession ⟨[8]⟩ ⟨[8]⟩ (hidentifies 8)
  obtain ⟨-, -, -, hdenied, habsent, -, -⟩ :=
    provisioning_is_decided_alike (.plain .setOnce) damagedSession ⟨[6]⟩ ⟨[6]⟩ (hidentifies 6)
  obtain ⟨answer, hanswer⟩ := (hrecalls .mock).1 hauthenticated
  obtain ⟨seed, ⟨record, ⟨value, hvalue, hread⟩, hseed, -⟩, rfl⟩ := hseeded .mock answer hanswer
  cases hvalue
  cases hread
  cases hseed
  obtain ⟨_, -, -, hrefused⟩ := hmaterial hauthenticated
  exact ⟨⟨hidentifies 7, hauthenticated, hanswer, (hrefused _).2 (.inl hkeyless)⟩,
    ⟨hidentifies 8, hunreadable, (hfails _ hunreadable).2.2.2 .mock⟩, hidentifies 6, hmissing,
    hdenied.1 (habsent hmissing)⟩

end Keeper
end EnclaveRegistry
