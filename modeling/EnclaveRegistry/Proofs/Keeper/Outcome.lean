import EnclaveRegistry.Proofs.Keeper.Operation
import EnclaveRegistry.Proofs.Keeper.Session
import EnclaveRegistry.Proofs.Store.Key

/-! # How updates end

Each update ends in one of a few ways, and each way fixes its answer and its events. Writes only
happen in the ways that end well: all that could still refuse a write has been checked before.
-/
namespace EnclaveRegistry

abbrev recordEntry (id : NodeId) (record : NodeRecord) : Entry :=
  (id.storeKey, Schema.toRecord record)

abbrev masterKeyEntry (type : MasterKeyType) (key : MasterKey) : Entry :=
  (type.storeKey, Schema.toRecord key)

def masterKeyEvents (type : MasterKeyType) (key : MasterKey) : List Event :=
  [.wrote type.storeKey (Schema.toRecord key), .noticed (.masterKeySet type key.octets.length)]

@[simp] theorem entries_masterKeyEvents (type : MasterKeyType) (key : MasterKey) :
    Event.entries (masterKeyEvents type key) = [masterKeyEntry type key] := rfl

def masterKeyEvents? (type : MasterKeyType) : Option MasterKey → List Event
  | some key => masterKeyEvents type key
  | none => []

@[simp] theorem entries_masterKeyEvents? (type : MasterKeyType) (key : Option MasterKey) :
    Event.entries (masterKeyEvents? type key) = (key.map (masterKeyEntry type)).toList := by
  cases key <;> rfl

def recordEvents (identity : Identity) (record : NodeRecord) : List Event :=
  [.wrote identity.nodeId.storeKey (Schema.toRecord record),
    .noticed (.recordWritten identity.nodeId identity.platform record.isProvisioned)]

@[simp] theorem entries_recordEvents (identity : Identity) (record : NodeRecord) :
    Event.entries (recordEvents identity record) = [recordEntry identity.nodeId record] := rfl

def recordsEvents (proven : List (Identity × NodeRecord)) : List Event :=
  proven.flatMap fun entry => recordEvents entry.1 entry.2

@[simp] theorem entries_recordsEvents (proven : List (Identity × NodeRecord)) :
    Event.entries (recordsEvents proven) =
      proven.map fun entry => recordEntry entry.1.nodeId entry.2 := by
  induction proven with
  | nil => rfl
  | cons entry rest ih =>
    rw [recordsEvents, List.flatMap_cons, Event.entries_append, entries_recordEvents]
    exact congrArg (List.cons _) ih

abbrev seededRecord (certificate : Certificate) (seed : Bytes) : NodeRecord :=
  ⟨certificate, some ⟨seed⟩⟩

abbrev Keeper.Accepts (keeper : Keeper) (certificate : Certificate) (identity : Identity) : Prop :=
  keeper.verifier.verify certificate.octets = .ok identity

abbrev Keeper.Refuses (keeper : Keeper) (certificate : Certificate) (error : AttestationError) :
    Prop :=
  keeper.verifier.verify certificate.octets = .error error

theorem Keeper.Accepts.unique {keeper : Keeper} {certificate : Certificate} {a b : Identity}
    (ha : keeper.Accepts certificate a) (hb : keeper.Accepts certificate b) : a = b :=
  Except.ok.inj (ha.symm.trans hb)

theorem Keeper.Accepts.not_refuses {keeper : Keeper} {certificate : Certificate}
    {identity : Identity} {error : AttestationError} (h : keeper.Accepts certificate identity) :
    ¬ keeper.Refuses certificate error := by
  intro hrefused
  cases h.symm.trans hrefused

/-- The ways in which an update can end on a store, each with its answer and its events. -/
inductive Update.Ends (keeper : Keeper) (store : MemoryStore) :
    Update → Except KeeperError Answer → List Event → Prop
  | keyLocked {type key} (locked : keeper.isLocked store type = true) :
    Ends keeper store (.setMasterKey type key) (.error (.alreadyDefined type)) []
  | keySet {type key} (unlocked : keeper.isLocked store type = false) :
    Ends keeper store (.setMasterKey type key) (.ok .done) (masterKeyEvents type key)
  | recordRefused {record : NodeRecord} {error}
      (refused : keeper.Refuses record.certificate error) :
    Ends keeper store (.setRecord record) (.error (.invalidCertificate error))
      [.noticed (.registrationRefused (fingerprint record.certificate.octets) error)]
  | recordSet {record : NodeRecord} {identity}
      (accepted : keeper.Accepts record.certificate identity) :
    Ends keeper store (.setRecord record) (.ok (.node identity.nodeId))
      (recordEvents identity record)
  | registrationRefused {certificate enclave error} (refused : keeper.Refuses certificate error) :
    Ends keeper store (.register certificate enclave) (.error (.invalidCertificate error)) []
  | registrationUnreadable {certificate enclave identity error}
      (accepted : keeper.Accepts certificate identity)
      (unreadable : Query.provisionedSeed store identity.nodeId = .error error) :
    Ends keeper store (.register certificate enclave) (.error error) []
  | registrationKnown {certificate enclave identity seed}
      (accepted : keeper.Accepts certificate identity)
      (known : Query.provisionedSeed store identity.nodeId = .ok (some seed)) :
    Ends keeper store (.register certificate enclave) (.ok (.seed identity.nodeId seed))
      [.noticed (.seedReturned identity.nodeId)]
  | registrationFailed {certificate} {enclave : Enclave} {identity error}
      (accepted : keeper.Accepts certificate identity)
      (fresh : Query.provisionedSeed store identity.nodeId = .ok none)
      (failed : enclave.encryptedSeed certificate.octets = .error error) :
    Ends keeper store (.register certificate enclave) (.error (.enclave error))
      [.called (.encryptedSeed certificate.octets)]
  | registered {certificate} {enclave : Enclave} {identity seed}
      (accepted : keeper.Accepts certificate identity)
      (fresh : Query.provisionedSeed store identity.nodeId = .ok none)
      (granted : enclave.encryptedSeed certificate.octets = .ok seed) :
    Ends keeper store (.register certificate enclave) (.ok (.seed identity.nodeId ⟨seed⟩))
      (.called (.encryptedSeed certificate.octets) ::
        recordEvents identity (seededRecord certificate seed))
  | networkDefined {certificate nodeExchangeKey ioKey enclave type}
      (defined : Keeper.definedMasterKey? store = some type) :
    Ends keeper store (.bootstrapNetwork certificate nodeExchangeKey ioKey enclave)
      (.error (.alreadyDefined type)) []
  | networkRefused {certificate nodeExchangeKey ioKey enclave error}
      (undefined : Keeper.definedMasterKey? store = none)
      (refused : keeper.Refuses certificate error) :
    Ends keeper store (.bootstrapNetwork certificate nodeExchangeKey ioKey enclave)
      (.error (.invalidCertificate error)) []
  | networkFailed {certificate nodeExchangeKey ioKey} {enclave : Enclave} {identity error}
      (undefined : Keeper.definedMasterKey? store = none)
      (accepted : keeper.Accepts certificate identity)
      (failed : enclave.genesisSeed identity.publicKey = .error error) :
    Ends keeper store (.bootstrapNetwork certificate nodeExchangeKey ioKey enclave)
      (.error (.enclave error)) [.called (.genesisSeed identity.publicKey)]
  | networkSet {certificate nodeExchangeKey ioKey} {enclave : Enclave} {identity seed}
      (undefined : Keeper.definedMasterKey? store = none)
      (accepted : keeper.Accepts certificate identity)
      (granted : enclave.genesisSeed identity.publicKey = .ok seed) :
    Ends keeper store (.bootstrapNetwork certificate nodeExchangeKey ioKey enclave)
      (.ok (.node identity.nodeId))
      (.called (.genesisSeed identity.publicKey) ::
        (masterKeyEvents .nodeExchange nodeExchangeKey ++ (masterKeyEvents .io ioKey ++
          (recordEvents identity (seededRecord certificate seed) ++
            [.noticed (.networkBootstrapped identity.nodeId)]))))
  | genesisInvalid {state : Genesis.State} {error} (invalid : state.validate = .error error) :
    Ends keeper store (.loadGenesis state) (.error error) []
  | genesisConflict {state : Genesis.State} {type} (valid : state.validate = .ok ())
      (conflict : keeper.conflict? store state = some type) :
    Ends keeper store (.loadGenesis state) (.error (.alreadyDefined type)) []
  | genesisRefused {state : Genesis.State} {before record rest error}
      (valid : state.validate = .ok ()) (unlocked : keeper.conflict? store state = none)
      (records : state.records = before ++ record :: rest)
      (accepted : ∀ earlier ∈ before, ∃ identity, keeper.Accepts earlier.certificate identity)
      (refused : keeper.Refuses record.certificate error) :
    Ends keeper store (.loadGenesis state) (.error (.invalidCertificate error))
      [.noticed (.genesisRecordRefused before.length error)]
  | genesisLoaded {state : Genesis.State} {proven : List (Identity × NodeRecord)}
      (valid : state.validate = .ok ()) (unlocked : keeper.conflict? store state = none)
      (records : proven.map Prod.snd = state.records)
      (accepted : ∀ entry ∈ proven, keeper.Accepts entry.2.certificate entry.1) :
    Ends keeper store (.loadGenesis state) (.ok .done)
      (masterKeyEvents? .nodeExchange state.nodeExchangeKey ++
        (masterKeyEvents? .io state.ioKey ++
          (recordsEvents proven ++ [.noticed (.genesisLoaded state.records.length)])))

namespace Keeper

open Transaction

variable {keeper : Keeper}

theorem identify_ok {certificate : Certificate} {identity : Identity}
    (h : keeper.Accepts certificate identity) : keeper.identify certificate = .ok identity := by
  rw [identify, h]

theorem identify_error {certificate : Certificate} {error : AttestationError}
    (h : keeper.Refuses certificate error) :
    keeper.identify certificate = .error (.invalidCertificate error) := by
  rw [identify, h]

theorem accepts_of_identify {certificate : Certificate} {identity : Identity}
    (h : keeper.identify certificate = .ok identity) : keeper.Accepts certificate identity := by
  unfold identify at h
  split at h
  · rename_i proven hproven
    cases h
    exact hproven
  · cases h

/-! ## Single writes -/

theorem run_setMasterKey_locked {session : Session MemoryStore} {type : MasterKeyType}
    (h : keeper.isLocked session.store type = true) (key : MasterKey) :
    (keeper.setMasterKey type key).run session = (.error (.alreadyDefined type), session) := by
  rw [setMasterKey, run_bind_ok (run_store session)]
  simp only [h, if_true]
  exact run_bind_error (run_refuse ..)

theorem run_setMasterKey {session : Session MemoryStore} {type : MasterKeyType}
    (h : keeper.isLocked session.store type = false) (key : MasterKey) :
    (keeper.setMasterKey type key).run session =
      (.ok (), session.after (masterKeyEvents type key)) := by
  rw [setMasterKey, run_bind_ok (run_store session)]
  simp only [h, Bool.false_eq_true, if_false]
  rw [run_bind_ok (run_write ..), run_notice, Session.after_after]
  rfl

theorem run_setRecord_refused {record : NodeRecord} {error : AttestationError}
    (h : keeper.Refuses record.certificate error) (session : Session MemoryStore) :
    (keeper.setRecord record).run session = (.error (.invalidCertificate error), session.after
      [.noticed (.registrationRefused (fingerprint record.certificate.octets) error)]) := by
  simp only [setRecord, h]
  rw [run_bind_ok (run_notice ..), run_refuse]

theorem run_setRecord {record : NodeRecord} {identity : Identity}
    (h : keeper.Accepts record.certificate identity) (session : Session MemoryStore) :
    (keeper.setRecord record).run session =
      (.ok identity.nodeId, session.after (recordEvents identity record)) := by
  simp only [setRecord, h]
  rw [run_bind_ok (run_write ..), run_bind_ok (run_notice ..), run_pure, Session.after_after]
  rfl

/-! ## Writes of several entries

A master key that was free to be set still is after the other one has been written, so the check
that each write makes again cannot fail any more. -/

theorem isLocked_congr {a b : MemoryStore} {type : MasterKeyType}
    (h : KeyValueStore.get? b type.storeKey = KeyValueStore.get? a type.storeKey) :
    keeper.isLocked b type = keeper.isLocked a type := by
  rw [isLocked, isLocked, Query.isMasterKeyDefined, Query.isMasterKeyDefined, h]

theorem isLocked_after_masterKeyEvents {type other : MasterKeyType} (h : other ≠ type)
    (session : Session MemoryStore) (key : MasterKey) :
    keeper.isLocked (session.after (masterKeyEvents type key)).store other =
      keeper.isLocked session.store other := by
  have hne : other.storeKey ≠ type.storeKey := fun heq => h (MasterKeyType.storeKey_inj.1 heq)
  exact isLocked_congr (MemoryStore.get?_set_of_ne session.store (Schema.toRecord key) hne)

theorem run_setMasterKey? {session : Session MemoryStore} {type : MasterKeyType}
    {key : Option MasterKey} (h : key.isSome → keeper.isLocked session.store type = false) :
    (keeper.setMasterKey? type key).run session =
      (.ok (), session.after (masterKeyEvents? type key)) := by
  cases key with
  | none => rw [masterKeyEvents?, Session.after_nil]; rfl
  | some key => exact run_setMasterKey (h rfl) key

theorem isLocked_after_masterKeyEvents? {type other : MasterKeyType} (h : other ≠ type)
    (session : Session MemoryStore) (key : Option MasterKey) :
    keeper.isLocked (session.after (masterKeyEvents? type key)).store other =
      keeper.isLocked session.store other := by
  cases key with
  | none => rw [masterKeyEvents?, Session.after_nil]
  | some key => exact isLocked_after_masterKeyEvents h session key

theorem run_setRecords {proven : List (Identity × NodeRecord)}
    (h : ∀ entry ∈ proven, keeper.Accepts entry.2.certificate entry.1)
    (session : Session MemoryStore) :
    (keeper.setRecords (proven.map Prod.snd)).run session =
      (.ok (), session.after (recordsEvents proven)) := by
  induction proven generalizing session with
  | nil => exact congrArg (Prod.mk _) session.after_nil.symm
  | cons entry rest ih =>
    have hhead := run_setRecord (h entry List.mem_cons_self) session
    have htail := ih (fun other hother => h other (List.mem_cons_of_mem entry hother))
      (session.after (recordEvents entry.1 entry.2))
    rw [List.map_cons, setRecords, run_bind_ok (run_discard hhead), htail, Session.after_after]
    rfl

/-! ## Checks of several records -/

theorem accepted_or_refused (keeper : Keeper) (records : List NodeRecord) :
    (∃ proven : List (Identity × NodeRecord), proven.map Prod.snd = records ∧
      ∀ entry ∈ proven, keeper.Accepts entry.2.certificate entry.1) ∨
    ∃ before record rest error, records = before ++ record :: rest ∧
      (∀ earlier ∈ before, ∃ identity, keeper.Accepts earlier.certificate identity) ∧
      keeper.Refuses record.certificate error := by
  induction records with
  | nil => exact .inl ⟨[], rfl, nofun⟩
  | cons record rest ih =>
    cases h : keeper.verifier.verify record.certificate.octets with
    | error error => exact .inr ⟨[], record, rest, error, rfl, nofun, h⟩
    | ok identity =>
      rcases ih with ⟨proven, rfl, haccepted⟩ | ⟨before, other, tail, error, rfl, hbefore, hrefused⟩
      · refine .inl ⟨(identity, record) :: proven, rfl, fun entry hentry => ?_⟩
        rcases List.mem_cons.1 hentry with rfl | hentry
        · exact h
        · exact haccepted entry hentry
      · refine .inr ⟨record :: before, other, tail, error, rfl, ?_, hrefused⟩
        intro earlier hearlier
        rcases List.mem_cons.1 hearlier with rfl | hearlier
        · exact ⟨identity, h⟩
        · exact hbefore earlier hearlier

theorem run_checkRecords_append {before : List NodeRecord}
    (h : ∀ record ∈ before, ∃ identity, keeper.Accepts record.certificate identity)
    (index : Nat) (rest : List NodeRecord) (session : Session MemoryStore) :
    (keeper.checkRecords index (before ++ rest)).run session =
      (keeper.checkRecords (index + before.length) rest).run session := by
  induction before generalizing index with
  | nil => rfl
  | cons record before ih =>
    obtain ⟨identity, hidentity⟩ := h record List.mem_cons_self
    have htail := ih (fun other hother => h other (List.mem_cons_of_mem record hother)) (index + 1)
    rw [List.cons_append, checkRecords, hidentity, List.length_cons]
    rw [htail, Nat.add_right_comm, Nat.add_assoc]

theorem run_checkRecords {records : List NodeRecord}
    (h : ∀ record ∈ records, ∃ identity, keeper.Accepts record.certificate identity)
    (index : Nat) (session : Session MemoryStore) :
    (keeper.checkRecords index records).run session = (.ok (), session) := by
  have happend := run_checkRecords_append h index [] session
  rw [List.append_nil] at happend
  rw [happend]
  rfl

theorem run_checkRecords_refused {before rest : List NodeRecord} {record : NodeRecord}
    {error : AttestationError}
    (h : ∀ earlier ∈ before, ∃ identity, keeper.Accepts earlier.certificate identity)
    (hrefused : keeper.Refuses record.certificate error) (session : Session MemoryStore) :
    (keeper.checkRecords 0 (before ++ record :: rest)).run session =
      (.error (.invalidCertificate error),
        session.after [.noticed (.genesisRecordRefused before.length error)]) := by
  rw [run_checkRecords_append h, checkRecords, hrefused, Nat.zero_add]
  rw [run_bind_ok (run_notice ..), run_refuse]

/-! ## Whole updates -/

theorem isMasterKeyDefined_of_definedMasterKey?_eq_none {store : MemoryStore}
    (h : definedMasterKey? store = none) (type : MasterKeyType) :
    Query.isMasterKeyDefined store type = false := by
  have hall : ∀ other ∈ MasterKeyType.all, ¬ Query.isMasterKeyDefined store other = true :=
    List.find?_eq_none.1 h
  have hmem : type ∈ MasterKeyType.all := by cases type <;> decide
  exact Bool.eq_false_iff.2 (hall type hmem)

theorem isLocked_of_definedMasterKey?_eq_none {store : MemoryStore}
    (h : definedMasterKey? store = none) (type : MasterKeyType) :
    keeper.isLocked store type = false := by
  rw [isLocked, isMasterKeyDefined_of_definedMasterKey?_eq_none h, Bool.and_false]

theorem isLocked_of_conflict?_eq_none {store : MemoryStore} {state : Genesis.State}
    (h : keeper.conflict? store state = none) {type : MasterKeyType}
    (hkey : (state.masterKey? type).isSome) : keeper.isLocked store type = false := by
  have hmem : type ∈ MasterKeyType.all := by cases type <;> decide
  have hnot := List.find?_eq_none.1 h type hmem
  simpa [hkey] using hnot

end Keeper

namespace Update

open Transaction Keeper

/-- Every update ends in one of its ways. -/
theorem exists_ends (keeper : Keeper) (store : MemoryStore) (update : Update) :
    ∃ result events, Ends keeper store update result events := by
  cases update with
  | setMasterKey type key =>
    cases hlocked : keeper.isLocked store type with
    | true => exact ⟨_, _, .keyLocked hlocked⟩
    | false => exact ⟨_, _, .keySet hlocked⟩
  | setRecord record =>
    cases hverify : keeper.verifier.verify record.certificate.octets with
    | error error => exact ⟨_, _, .recordRefused hverify⟩
    | ok identity => exact ⟨_, _, .recordSet hverify⟩
  | register certificate enclave =>
    cases hverify : keeper.verifier.verify certificate.octets with
    | error error => exact ⟨_, _, .registrationRefused hverify⟩
    | ok identity =>
      cases hseed : Query.provisionedSeed store identity.nodeId with
      | error error => exact ⟨_, _, .registrationUnreadable hverify hseed⟩
      | ok known =>
        cases known with
        | some seed => exact ⟨_, _, .registrationKnown hverify hseed⟩
        | none =>
          cases hcall : enclave.encryptedSeed certificate.octets with
          | error error => exact ⟨_, _, .registrationFailed hverify hseed hcall⟩
          | ok seed => exact ⟨_, _, .registered hverify hseed hcall⟩
  | bootstrapNetwork certificate nodeExchangeKey ioKey enclave =>
    cases hdefined : Keeper.definedMasterKey? store with
    | some type => exact ⟨_, _, .networkDefined hdefined⟩
    | none =>
      cases hverify : keeper.verifier.verify certificate.octets with
      | error error => exact ⟨_, _, .networkRefused hdefined hverify⟩
      | ok identity =>
        cases hcall : enclave.genesisSeed identity.publicKey with
        | error error => exact ⟨_, _, .networkFailed hdefined hverify hcall⟩
        | ok seed => exact ⟨_, _, .networkSet hdefined hverify hcall⟩
  | loadGenesis state =>
    cases hvalid : state.validate with
    | error error => exact ⟨_, _, .genesisInvalid hvalid⟩
    | ok =>
      cases hconflict : keeper.conflict? store state with
      | some type => exact ⟨_, _, .genesisConflict hvalid hconflict⟩
      | none =>
        rcases accepted_or_refused keeper state.records with
          ⟨proven, hrecords, haccepted⟩ | ⟨before, record, rest, error, hrecords, hbefore, hrefused⟩
        · exact ⟨_, _, .genesisLoaded hvalid hconflict hrecords haccepted⟩
        · exact ⟨_, _, .genesisRefused hvalid hconflict hrecords hbefore hrefused⟩

variable {keeper : Keeper} {session : Session MemoryStore} {result : Except KeeperError Answer}
  {events : List Event}

theorem Ends.run_setMasterKey {type : MasterKeyType} {key : MasterKey}
    (h : Ends keeper session.store (setMasterKey type key) result events) :
    ((setMasterKey type key).perform keeper).run session = (result, session.after events) := by
  cases h with
  | keyLocked locked =>
    rw [perform, run_map (run_setMasterKey_locked locked key), Session.after_nil]
    rfl
  | keySet unlocked =>
    rw [perform, run_map (Keeper.run_setMasterKey unlocked key)]
    rfl

theorem Ends.run_setRecord {record : NodeRecord}
    (h : Ends keeper session.store (setRecord record) result events) :
    ((setRecord record).perform keeper).run session = (result, session.after events) := by
  cases h with
  | recordRefused refused =>
    rw [perform, run_map (run_setRecord_refused refused session)]
    rfl
  | recordSet accepted =>
    rw [perform, run_map (Keeper.run_setRecord accepted session)]
    rfl

theorem Ends.run_register {certificate : Certificate} {enclave : Enclave}
    (h : Ends keeper session.store (register certificate enclave) result events) :
    ((register certificate enclave).perform keeper).run session =
      (result, session.after events) := by
  cases h with
  | @registrationRefused _ _ error refused =>
    have hrun : (keeper.register certificate enclave).run session =
        (.error (.invalidCertificate error), session) := by
      rw [Keeper.register, run_bind_error (run_ofExcept (identify_error refused) session)]
    rw [perform, run_map hrun, Session.after_nil]
    rfl
  | @registrationUnreadable _ _ _ error accepted unreadable =>
    have hrun : (keeper.register certificate enclave).run session = (.error error, session) := by
      rw [Keeper.register, run_bind_ok (run_ofExcept (identify_ok accepted) session),
        run_bind_ok (run_store session), run_bind_error (run_ofExcept unreadable session)]
    rw [perform, run_map hrun, Session.after_nil]
    rfl
  | @registrationKnown _ _ identity seed accepted known =>
    have hrun : (keeper.register certificate enclave).run session = (.ok (identity.nodeId, seed),
        session.after [.noticed (.seedReturned identity.nodeId)]) := by
      rw [Keeper.register, run_bind_ok (run_ofExcept (identify_ok accepted) session),
        run_bind_ok (run_store session), run_bind_ok (run_ofExcept known session),
        run_bind_ok (run_notice ..), run_pure]
    rw [perform, run_map hrun]
    rfl
  | @registrationFailed _ _ _ error accepted fresh failed =>
    have hrun : (keeper.register certificate enclave).run session = (.error (.enclave error),
        session.after [.called (.encryptedSeed certificate.octets)]) := by
      rw [Keeper.register, run_bind_ok (run_ofExcept (identify_ok accepted) session),
        run_bind_ok (run_store session), run_bind_ok (run_ofExcept fresh session), failed,
        run_bind_error (run_call_error ..)]
    rw [perform, run_map hrun]
    rfl
  | @registered _ _ identity seed accepted fresh granted =>
    have hrun : (keeper.register certificate enclave).run session = (.ok (identity.nodeId, ⟨seed⟩),
        session.after (.called (.encryptedSeed certificate.octets) ::
          recordEvents identity (seededRecord certificate seed))) := by
      rw [Keeper.register, run_bind_ok (run_ofExcept (identify_ok accepted) session),
        run_bind_ok (run_store session), run_bind_ok (run_ofExcept fresh session), granted,
        run_bind_ok (run_call_ok ..), run_bind_ok (run_discard (Keeper.run_setRecord accepted _)),
        run_pure, Session.after_after]
      rfl
    rw [perform, run_map hrun]
    rfl

theorem Ends.run_bootstrapNetwork {certificate : Certificate} {nodeExchangeKey ioKey : MasterKey}
    {enclave : Enclave} (h : Ends keeper session.store
      (bootstrapNetwork certificate nodeExchangeKey ioKey enclave) result events) :
    ((bootstrapNetwork certificate nodeExchangeKey ioKey enclave).perform keeper).run session =
      (result, session.after events) := by
  cases h with
  | @networkDefined _ _ _ _ type defined =>
    have hrun : (keeper.bootstrapNetwork certificate nodeExchangeKey ioKey enclave).run session =
        (.error (.alreadyDefined type), session) := by
      rw [Keeper.bootstrapNetwork, run_bind_ok (run_store session), defined]
      exact run_refuse ..
    rw [perform, run_map hrun, Session.after_nil]
    rfl
  | @networkRefused _ _ _ _ error undefined refused =>
    have hrun : (keeper.bootstrapNetwork certificate nodeExchangeKey ioKey enclave).run session =
        (.error (.invalidCertificate error), session) := by
      rw [Keeper.bootstrapNetwork, run_bind_ok (run_store session), undefined]
      exact run_bind_error (run_ofExcept (identify_error refused) session)
    rw [perform, run_map hrun, Session.after_nil]
    rfl
  | @networkFailed _ _ _ _ identity error undefined accepted failed =>
    have hrun : (keeper.bootstrapNetwork certificate nodeExchangeKey ioKey enclave).run session =
        (.error (.enclave error), session.after [.called (.genesisSeed identity.publicKey)]) := by
      rw [Keeper.bootstrapNetwork, run_bind_ok (run_store session), undefined]
      dsimp only
      rw [run_bind_ok (run_ofExcept (identify_ok accepted) session), failed,
        run_bind_error (run_call_error ..)]
    rw [perform, run_map hrun]
    rfl
  | @networkSet _ _ _ _ identity seed undefined accepted granted =>
    let called := session.after [.called (.genesisSeed identity.publicKey)]
    have hnode : keeper.isLocked called.store .nodeExchange = false :=
      isLocked_of_definedMasterKey?_eq_none undefined .nodeExchange
    have hlocked : keeper.isLocked
        (called.after (masterKeyEvents .nodeExchange nodeExchangeKey)).store .io = false := by
      rw [isLocked_after_masterKeyEvents (by decide)]
      exact isLocked_of_definedMasterKey?_eq_none undefined .io
    have hrun : (keeper.bootstrapNetwork certificate nodeExchangeKey ioKey enclave).run session =
        (.ok identity.nodeId, called.after
          (masterKeyEvents .nodeExchange nodeExchangeKey ++ (masterKeyEvents .io ioKey ++
            (recordEvents identity (seededRecord certificate seed) ++
              [.noticed (.networkBootstrapped identity.nodeId)])))) := by
      rw [Keeper.bootstrapNetwork, run_bind_ok (run_store session), undefined]
      dsimp only
      rw [run_bind_ok (run_ofExcept (identify_ok accepted) session), granted,
        run_bind_ok (run_call_ok ..), run_bind_ok (Keeper.run_setMasterKey hnode nodeExchangeKey),
        run_bind_ok (Keeper.run_setMasterKey hlocked ioKey),
        run_bind_ok (Keeper.run_setRecord accepted _), run_bind_ok (run_notice ..), run_pure,
        Session.after_after, Session.after_after, Session.after_after]
    rw [perform, run_map hrun, Session.after_after]
    rfl

theorem Ends.run_loadGenesis {state : Genesis.State}
    (h : Ends keeper session.store (loadGenesis state) result events) :
    ((loadGenesis state).perform keeper).run session = (result, session.after events) := by
  cases h with
  | @genesisInvalid _ error invalid =>
    have hrun : (keeper.loadGenesis state).run session = (.error error, session) := by
      rw [Keeper.loadGenesis, run_bind_error (run_ofExcept invalid session)]
    rw [perform, run_map hrun, Session.after_nil]
    rfl
  | @genesisConflict _ type valid conflict =>
    have hrun : (keeper.loadGenesis state).run session =
        (.error (.alreadyDefined type), session) := by
      rw [Keeper.loadGenesis, run_bind_ok (run_ofExcept valid session),
        run_bind_ok (run_store session), conflict]
      exact run_refuse ..
    rw [perform, run_map hrun, Session.after_nil]
    rfl
  | @genesisRefused _ before _ _ error valid unlocked records accepted refused =>
    have hrun : (keeper.loadGenesis state).run session = (.error (.invalidCertificate error),
        session.after [.noticed (.genesisRecordRefused before.length error)]) := by
      rw [Keeper.loadGenesis, run_bind_ok (run_ofExcept valid session),
        run_bind_ok (run_store session), unlocked]
      dsimp only
      rw [records, run_bind_error (run_checkRecords_refused accepted refused session)]
    rw [perform, run_map hrun]
    rfl
  | @genesisLoaded _ proven valid unlocked records accepted =>
    have hexists : ∀ record ∈ state.records,
        ∃ identity, keeper.Accepts record.certificate identity := by
      intro record hrecord
      rw [← records] at hrecord
      obtain ⟨entry, hentry, rfl⟩ := List.mem_map.1 hrecord
      exact ⟨entry.1, accepted entry hentry⟩
    -- Both keys were checked on the store before; the first one set does not lock the second.
    let mid := session.after (masterKeyEvents? .nodeExchange state.nodeExchangeKey)
    have hnode : state.nodeExchangeKey.isSome →
        keeper.isLocked session.store .nodeExchange = false :=
      fun hkey => isLocked_of_conflict?_eq_none unlocked hkey
    have hio : state.ioKey.isSome → keeper.isLocked mid.store .io = false := by
      intro hkey
      rw [isLocked_after_masterKeyEvents? (by decide)]
      exact isLocked_of_conflict?_eq_none unlocked hkey
    have hrun : (keeper.loadGenesis state).run session = (.ok (), session.after
        (masterKeyEvents? .nodeExchange state.nodeExchangeKey ++
          (masterKeyEvents? .io state.ioKey ++
            (recordsEvents proven ++ [.noticed (.genesisLoaded state.records.length)])))) := by
      rw [Keeper.loadGenesis, run_bind_ok (run_ofExcept valid session),
        run_bind_ok (run_store session), unlocked]
      dsimp only
      rw [run_bind_ok (run_checkRecords hexists 0 session), run_bind_ok (run_setMasterKey? hnode),
        run_bind_ok (run_setMasterKey? hio)]
      rw [← records, run_bind_ok (run_setRecords accepted _), run_notice, Session.after_after,
        Session.after_after, Session.after_after]
    rw [perform, run_map hrun]
    rfl

/-- How an update ends is what its transaction does. -/
theorem Ends.run {update : Update} (h : Ends keeper session.store update result events) :
    (update.perform keeper).run session = (result, session.after events) := by
  cases update with
  | setMasterKey => exact h.run_setMasterKey
  | setRecord => exact h.run_setRecord
  | register => exact h.run_register
  | bootstrapNetwork => exact h.run_bootstrapNetwork
  | loadGenesis => exact h.run_loadGenesis

theorem run_perform (keeper : Keeper) (session : Session MemoryStore) (update : Update) :
    ∃ result events, Ends keeper session.store update result events ∧
      (update.perform keeper).run session = (result, session.after events) := by
  obtain ⟨result, events, h⟩ := exists_ends keeper session.store update
  exact ⟨result, events, h, h.run⟩

theorem Ends.perform {update : Update} (h : Ends keeper session.store update result events) :
    (Operation.update update).perform keeper session = (⟨[], result⟩, session.after events) := by
  rw [Operation.perform, h.run]

/-- There is one way only for an update to end on a store. -/
theorem Ends.unique {store : MemoryStore} {update : Update} {other : Except KeeperError Answer}
    {others : List Event} (h : Ends keeper store update result events)
    (hother : Ends keeper store update other others) : result = other ∧ events = others := by
  let session : Session MemoryStore := ⟨store, []⟩
  have hrun : (update.perform keeper).run session = (result, session.after events) := h.run
  have hsame : (result, session.after events) = (other, session.after others) :=
    hrun.symm.trans hother.run
  exact ⟨congrArg Prod.fst hsame, congrArg (fun ended => ended.2.trace) hsame⟩

end Update

namespace Keeper

/-- What every update of a run keeps up holds after the run if it holds before. -/
theorem run_store_induction {keeper : Keeper} {P : MemoryStore → Prop}
    {operations : List Operation}
    (hstep : ∀ update store result events, .update update ∈ operations → P store →
      Update.Ends keeper store update result events → P (writeAll store (Event.entries events)))
    (session : Session MemoryStore) (hstart : P session.store) :
    P (keeper.run operations session).2.store := by
  induction operations generalizing session with
  | nil => exact hstart
  | cons operation rest ih =>
    have hrest : ∀ update store result events, .update update ∈ rest → P store →
        Update.Ends keeper store update result events →
          P (writeAll store (Event.entries events)) :=
      fun update store result events hmem =>
        hstep update store result events (List.mem_cons_of_mem operation hmem)
    cases operation with
    | inquiry inquiry => exact ih hrest session hstart
    | update update =>
      obtain ⟨result, events, hends⟩ := update.exists_ends keeper session.store
      have hmid := hstep update _ _ _ List.mem_cons_self hstart hends
      rw [run, hends.perform]
      exact ih hrest _ hmid

/-- What each operation adds to the trace stands before what the rest of its run adds. -/
theorem run_after_induction {keeper : Keeper} {P : List Operation → List Event → Prop}
    (hnil : P [] [])
    (hstep : ∀ (operation : Operation) (session : Session MemoryStore), ∃ reply first,
      operation.perform keeper session = (reply, session.after first) ∧
        ∀ rest later, P rest later → P (operation :: rest) (first ++ later))
    (operations : List Operation) (session : Session MemoryStore) :
    ∃ events, (keeper.run operations session).2 = session.after events ∧ P operations events := by
  induction operations generalizing session with
  | nil => exact ⟨[], session.after_nil.symm, hnil⟩
  | cons operation rest ih =>
    obtain ⟨reply, first, hperform, hfirst⟩ := hstep operation session
    obtain ⟨later, hrun, hlater⟩ := ih (session.after first)
    refine ⟨first ++ later, ?_, hfirst rest later hlater⟩
    rw [run, hperform, ← Session.after_after]
    exact hrun

end Keeper
end EnclaveRegistry
