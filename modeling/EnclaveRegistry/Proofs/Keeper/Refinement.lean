import EnclaveRegistry.Proofs.Keeper.Outcome
import EnclaveRegistry.Proofs.Keeper.Query
import EnclaveRegistry.Proofs.Keeper.Registry

/-! # A store stands for a registry

A keeper answers from a store of octets what the typed registry answers that the store stands for,
and keeps the store standing for the registry that follows. Records and master keys never get into
each other's way, and whatever was written is read again.
-/
namespace EnclaveRegistry

namespace Registry

/-- Whether a store holds the records and the master keys of a registry, and nothing else. -/
structure StoredIn (registry : Registry) (store : MemoryStore) : Prop where
  record : ∀ id : NodeId,
    KeyValueStore.get? store id.storeKey = (registry.records[id]?).map Schema.toRecord
  masterKey : ∀ type : MasterKeyType,
    KeyValueStore.get? store type.storeKey = (registry.masterKey? type).map Schema.toRecord
  nothingElse : ∀ key value, KeyValueStore.get? store key = some value →
    (∃ id : NodeId, key = id.storeKey) ∨ ∃ type : MasterKeyType, key = type.storeKey
  recordFits : ∀ {id : NodeId} {record}, registry.records[id]? = some record → record.Fits
  masterKeyFits : ∀ {type} {key : MasterKey}, registry.masterKey? type = some key → key.Fits

theorem empty_storedIn : empty.StoredIn .empty where
  record id := by simp [empty]
  masterKey type := rfl
  nothingElse key value h := by cases h
  recordFits h := by simp [empty] at h
  masterKeyFits h := by cases h

namespace StoredIn

variable {registry : Registry} {store : MemoryStore}

/-! ## Writes -/

theorem setRecord (h : registry.StoredIn store) (id : NodeId) {record : NodeRecord}
    (hfits : record.Fits) : (registry.setRecord id record).StoredIn
      (KeyValueStore.set store id.storeKey (Schema.toRecord record)) where
  record other := by
    rw [MemoryStore.get?_set, setRecord_records, h.record other]
    by_cases heq : other = id <;> simp [heq]
  masterKey type := by
    rw [MemoryStore.get?_set_of_ne store _ (type.storeKey_ne id)]
    exact h.masterKey type
  nothingElse key value hget := by
    by_cases heq : key = id.storeKey
    · exact .inl ⟨id, heq⟩
    · rw [MemoryStore.get?_set_of_ne store _ heq] at hget
      exact h.nothingElse key value hget
  recordFits {other found} hfound := by
    rw [setRecord_records] at hfound
    split at hfound
    · cases hfound
      exact hfits
    · exact h.recordFits hfound
  masterKeyFits := h.masterKeyFits

theorem setMasterKey (h : registry.StoredIn store) (type : MasterKeyType) {key : MasterKey}
    (hfits : key.Fits) : (registry.setMasterKey type key).StoredIn
      (KeyValueStore.set store type.storeKey (Schema.toRecord key)) where
  record id := by
    rw [MemoryStore.get?_set_of_ne store _ (id.storeKey_ne type)]
    exact h.record id
  masterKey other := by
    rw [MemoryStore.get?_set, setMasterKey_masterKey?, h.masterKey other]
    by_cases heq : other = type <;> simp [heq]
  nothingElse found value hget := by
    by_cases heq : found = type.storeKey
    · exact .inr ⟨type, heq⟩
    · rw [MemoryStore.get?_set_of_ne store _ heq] at hget
      exact h.nothingElse found value hget
  recordFits := h.recordFits
  masterKeyFits {other found} hfound := by
    rw [setMasterKey_masterKey?] at hfound
    split at hfound
    · cases hfound
      exact hfits
    · exact h.masterKeyFits hfound

theorem setMasterKey? (h : registry.StoredIn store) (type : MasterKeyType) {key : Option MasterKey}
    (hfits : ∀ value, key = some value → value.Fits) :
    (registry.setMasterKey? type key).StoredIn
      (writeAll store (key.map (masterKeyEntry type)).toList) := by
  cases key with
  | none => exact h
  | some value => exact h.setMasterKey type (hfits value rfl)

theorem setRecords (h : registry.StoredIn store) {records : List (NodeId × NodeRecord)}
    (hfits : ∀ entry ∈ records, entry.2.Fits) : (registry.setRecords records).StoredIn
      (writeAll store (records.map fun entry => recordEntry entry.1 entry.2)) := by
  induction records generalizing registry store with
  | nil => exact h
  | cons entry rest ih =>
    have hhead := h.setRecord entry.1 (hfits entry List.mem_cons_self)
    exact ih hhead fun other hother => hfits other (List.mem_cons_of_mem entry hother)

/-! ## Lookups -/

theorem nodeRecord (h : registry.StoredIn store) (id : NodeId) :
    Query.nodeRecord store id = .ok registry.records[id]? := by
  have hget := h.record id
  cases hrecord : registry.records[id]? with
  | none =>
    rw [hrecord] at hget
    exact Query.lookup_eq_ok_none_iff.2 hget
  | some record =>
    rw [hrecord] at hget
    exact Query.lookup_of_get?_eq_some hget (h.recordFits hrecord).schema

theorem readMasterKey (h : registry.StoredIn store) (type : MasterKeyType) :
    Query.masterKey store type = .ok (registry.masterKey? type) := by
  have hget := h.masterKey type
  cases hkey : registry.masterKey? type with
  | none =>
    rw [hkey] at hget
    exact Query.lookup_eq_ok_none_iff.2 hget
  | some key =>
    rw [hkey] at hget
    exact Query.lookup_of_get?_eq_some hget (h.masterKeyFits hkey).schema

theorem isMasterKeyDefined (h : registry.StoredIn store) (type : MasterKeyType) :
    Query.isMasterKeyDefined store type = (registry.masterKey? type).isSome := by
  rw [Query.isMasterKeyDefined, h.masterKey, Option.isSome_map]

theorem provisionedSeed (h : registry.StoredIn store) (id : NodeId) :
    Query.provisionedSeed store id = .ok (registry.seed? id) := by
  rw [Query.provisionedSeed, h.nodeRecord]
  rfl

theorem isLocked (h : registry.StoredIn store) (keeper : Keeper) (type : MasterKeyType) :
    keeper.isLocked store type = registry.isLocked keeper.policy type := by
  rw [Keeper.isLocked, h.isMasterKeyDefined, Registry.isLocked]

theorem definedMasterKey? (h : registry.StoredIn store) :
    Keeper.definedMasterKey? store = registry.definedMasterKey? := by
  rw [Keeper.definedMasterKey?, Registry.definedMasterKey?]
  exact congrArg (List.find? · MasterKeyType.all) (funext h.isMasterKeyDefined)

theorem conflict? (h : registry.StoredIn store) (keeper : Keeper) (state : Genesis.State) :
    keeper.conflict? store state = registry.conflict? keeper.policy state := by
  rw [Keeper.conflict?, Registry.conflict?]
  simp only [h.isLocked]

/-! ## Visits -/

theorem scan (h : registry.StoredIn store) :
    KeyValueStore.scan store registrationPrefix =
      registry.entries.map fun shown => recordEntry shown.nodeId shown.record := by
  have hascending : MemoryStore.Ascending
      (registry.entries.map fun shown => recordEntry shown.nodeId shown.record) := by
    refine List.pairwise_map.2 (registry.pairwise_entries.imp ?_)
    intro a b hab
    exact NodeId.storeKey_lt_iff.2 hab
  -- Both lists are strictly ascending, so that it is enough that they have the same members.
  refine (MemoryStore.ascending_scan store registrationPrefix).eq_of_mem_iff hascending ?_
  rintro ⟨key, value⟩
  rw [MemoryStore.mem_scan, NodeId.prefix_iff_exists_storeKey, List.mem_map]
  constructor
  · rintro ⟨⟨id, rfl⟩, hget⟩
    rw [h.record id] at hget
    obtain ⟨record, hrecord, rfl⟩ := Option.map_eq_some_iff.1 hget
    exact ⟨⟨id, record⟩, registry.mem_entries.2 hrecord, rfl⟩
  · rintro ⟨⟨id, record⟩, hmem, hentry⟩
    cases hentry
    refine ⟨⟨id, rfl⟩, ?_⟩
    rw [h.record id, registry.mem_entries.1 hmem]
    rfl

theorem visitEntries_recordEntry (enough : List RegistrationEntry → Bool)
    {entries : List RegistrationEntry} (hfits : ∀ shown ∈ entries, shown.record.Fits)
    (before : List RegistrationEntry) :
    Query.visitEntries (Query.keeping enough) before
      (entries.map fun shown => recordEntry shown.nodeId shown.record) =
      (shown enough before entries, .ok ()) := by
  induction entries generalizing before with
  | nil => rfl
  | cons entry rest ih =>
    have hread := Query.entryOf_storeKey entry.nodeId (hfits entry List.mem_cons_self)
    have hrest := ih fun other hother => hfits other (List.mem_cons_of_mem entry hother)
    rw [List.map_cons, Query.visitEntries, hread, shown]
    cases henough : enough (before ++ [entry]) with
    | true => simp [Query.keeping, henough]
    | false =>
      simp only [Query.keeping, henough, Bool.false_eq_true, if_false]
      exact hrest (before ++ [entry])

theorem visited (h : registry.StoredIn store) (enough : List RegistrationEntry → Bool) :
    Query.visited store enough = (shown enough [] registry.entries, .ok ()) := by
  rw [Query.visited, Query.visit, h.scan]
  refine visitEntries_recordEntry enough (fun entry hentry => ?_) []
  exact h.recordFits (registry.mem_entries.1 hentry)

theorem readEntries (h : registry.StoredIn store) : Query.entries store = .ok registry.entries := by
  rw [Query.entries_eq_ok_iff, h.visited, shown_never_enough]
  exact ⟨rfl, rfl⟩

theorem count (h : registry.StoredIn store) :
    Query.count store = .ok registry.entries.length := by
  rw [Query.count, h.readEntries]
  rfl

/-! ## Replies -/

theorem bootstrapMaterial (h : registry.StoredIn store) (id : NodeId) :
    Query.bootstrapMaterial store id = registry.material id := by
  rw [Query.bootstrapMaterial_eq, h.provisionedSeed, material]
  simp only [Query.requireMasterKey, h.readMasterKey]
  cases registry.seed? id <;> cases registry.masterKey? .nodeExchange <;>
    cases registry.masterKey? .io <;> rfl

theorem reply (h : registry.StoredIn store) (inquiry : Inquiry) :
    inquiry.reply store = registry.reply inquiry := by
  cases inquiry with
  | masterKey type => simp only [Inquiry.reply, h.readMasterKey]; rfl
  | isMasterKeyDefined type => simp only [Inquiry.reply, h.isMasterKeyDefined]; rfl
  | nodeRecord id => simp only [Inquiry.reply, h.nodeRecord]; rfl
  | isAuthenticated id =>
    simp only [Inquiry.reply, Query.isAuthenticated_eq, h.provisionedSeed]
    rfl
  | visit enough => simp only [Inquiry.reply, h.visited]; rfl
  | count =>
    simp only [Inquiry.reply, h.count, Registry.reply, ← length_entries]
    rfl
  | bootstrapMaterial id => simp only [Inquiry.reply, h.bootstrapMaterial]; rfl
  | state =>
    simp only [Inquiry.reply, Query.state, h.readEntries, h.readMasterKey]
    rfl

/-! ## Updates -/

theorem provenBy_accepted {keeper : Keeper} {proven : List (Identity × NodeRecord)}
    (h : ∀ entry ∈ proven, keeper.Accepts entry.2.certificate entry.1) :
    provenBy keeper (proven.map Prod.snd) =
      .ok (proven.map fun entry => (entry.1.nodeId, entry.2)) := by
  induction proven with
  | nil => rfl
  | cons entry rest ih =>
    have hhead := Keeper.identify_ok (h entry List.mem_cons_self)
    have hrest := ih fun other hother => h other (List.mem_cons_of_mem entry hother)
    rw [List.map_cons, provenBy, hhead, hrest]
    rfl

theorem provenBy_refused {keeper : Keeper} {before : List NodeRecord} {record : NodeRecord}
    {error : AttestationError}
    (hbefore : ∀ earlier ∈ before, ∃ identity, keeper.Accepts earlier.certificate identity)
    (hrefused : keeper.Refuses record.certificate error) (rest : List NodeRecord) :
    provenBy keeper (before ++ record :: rest) = .error (.invalidCertificate error) := by
  induction before with
  | nil =>
    rw [List.nil_append, provenBy, Keeper.identify_error hrefused]
    rfl
  | cons earlier before ih =>
    obtain ⟨identity, hidentity⟩ := hbefore earlier List.mem_cons_self
    have hrest := ih fun other hother => hbefore other (List.mem_cons_of_mem earlier hother)
    rw [List.cons_append, provenBy, Keeper.identify_ok hidentity, hrest]
    rfl

/-- Whether an update ends on a registry as on a store, and the store then holds the registry that
the update makes. -/
def Simulates (registry : Registry) (store : MemoryStore) (keeper : Keeper) (update : Update)
    (result : Except KeeperError Answer) (events : List Event) : Prop :=
  ∃ after, registry.perform keeper (.update update) = (⟨[], result⟩, after) ∧
    after.StoredIn (writeAll store (Event.entries events))

theorem simulates_error (h : registry.StoredIn store) {keeper : Keeper} {update : Update}
    {error : KeeperError} {events : List Event} (hentries : Event.entries events = [])
    (hupdate : registry.update keeper update = .error error) :
    Simulates registry store keeper update (.error error) events := by
  refine ⟨registry, perform_error hupdate, ?_⟩
  rw [hentries, writeAll_nil]
  exact h

variable {keeper : Keeper} {result : Except KeeperError Answer} {events : List Event}

theorem simulates_setMasterKey (h : registry.StoredIn store) {type : MasterKeyType}
    {key : MasterKey} (hfits : (Update.setMasterKey type key).Fits)
    (hends : Update.Ends keeper store (.setMasterKey type key) result events) :
    Simulates registry store keeper (.setMasterKey type key) result events := by
  cases hends with
  | keyLocked locked =>
    rw [h.isLocked] at locked
    exact h.simulates_error rfl (by rw [Registry.update, if_pos locked])
  | keySet unlocked =>
    rw [h.isLocked] at unlocked
    refine ⟨_, perform_ok ?_, h.setMasterKey type (hfits.2 type key ⟨rfl, rfl⟩)⟩
    simp [Registry.update, unlocked]

theorem simulates_setRecord (h : registry.StoredIn store) {record : NodeRecord}
    (hfits : (Update.setRecord record).Fits)
    (hends : Update.Ends keeper store (.setRecord record) result events) :
    Simulates registry store keeper (.setRecord record) result events := by
  cases hends with
  | recordRefused refused =>
    refine h.simulates_error rfl ?_
    rw [Registry.update, Keeper.identify_error refused, Result.error_bind]
  | @recordSet _ identity accepted =>
    refine ⟨_, perform_ok ?_, h.setRecord identity.nodeId (hfits.1 record rfl)⟩
    rw [Registry.update, Keeper.identify_ok accepted, Result.ok_bind]
    rfl

theorem simulates_register (h : registry.StoredIn store) {certificate : Certificate}
    {enclave : Enclave} (hfits : (Update.register certificate enclave).Fits)
    (hends : Update.Ends keeper store (.register certificate enclave) result events) :
    Simulates registry store keeper (.register certificate enclave) result events := by
  cases hends with
  | registrationRefused refused =>
    refine h.simulates_error rfl ?_
    rw [Registry.update, Keeper.identify_error refused, Result.error_bind]
  | registrationUnreadable accepted unreadable =>
    rw [h.provisionedSeed] at unreadable
    cases unreadable
  | registrationKnown accepted known =>
    rw [h.provisionedSeed] at known
    refine ⟨registry, perform_ok ?_, h⟩
    simp only [Registry.update, Keeper.identify_ok accepted, Result.ok_bind, Except.ok.inj known]
    rfl
  | registrationFailed accepted fresh failed =>
    rw [h.provisionedSeed] at fresh
    refine h.simulates_error rfl ?_
    simp only [Registry.update, Keeper.identify_ok accepted, Result.ok_bind, Except.ok.inj fresh,
      failed]
  | @registered _ _ identity seed accepted fresh granted =>
    rw [h.provisionedSeed] at fresh
    refine ⟨_, perform_ok ?_, h.setRecord identity.nodeId (hfits.1 _ ⟨seed, granted, rfl⟩)⟩
    simp only [Registry.update, Keeper.identify_ok accepted, Result.ok_bind, Except.ok.inj fresh,
      granted]
    rfl

theorem simulates_bootstrapNetwork (h : registry.StoredIn store) {certificate : Certificate}
    {nodeExchangeKey ioKey : MasterKey} {enclave : Enclave}
    (hfits : (Update.bootstrapNetwork certificate nodeExchangeKey ioKey enclave).Fits)
    (hends : Update.Ends keeper store
      (.bootstrapNetwork certificate nodeExchangeKey ioKey enclave) result events) :
    Simulates registry store keeper (.bootstrapNetwork certificate nodeExchangeKey ioKey enclave)
      result events := by
  cases hends with
  | networkDefined defined =>
    rw [h.definedMasterKey?] at defined
    refine h.simulates_error rfl ?_
    simp only [Registry.update, defined]
  | networkRefused undefined refused =>
    rw [h.definedMasterKey?] at undefined
    refine h.simulates_error rfl ?_
    simp only [Registry.update, undefined, Keeper.identify_error refused, Result.error_bind]
  | networkFailed undefined accepted failed =>
    rw [h.definedMasterKey?] at undefined
    refine h.simulates_error rfl ?_
    simp only [Registry.update, undefined, Keeper.identify_ok accepted, Result.ok_bind, failed]
  | @networkSet _ _ _ _ identity seed undefined accepted granted =>
    rw [h.definedMasterKey?] at undefined
    have hnode := h.setMasterKey .nodeExchange (hfits.2 .nodeExchange nodeExchangeKey rfl)
    have hio := hnode.setMasterKey .io (hfits.2 .io ioKey rfl)
    refine ⟨_, perform_ok ?_, hio.setRecord identity.nodeId (hfits.1 _ ⟨_, seed, granted, rfl⟩)⟩
    simp only [Registry.update, undefined, Keeper.identify_ok accepted, Result.ok_bind, granted]
    rfl

theorem simulates_loadGenesis (h : registry.StoredIn store) {state : Genesis.State}
    (hfits : (Update.loadGenesis state).Fits)
    (hends : Update.Ends keeper store (.loadGenesis state) result events) :
    Simulates registry store keeper (.loadGenesis state) result events := by
  cases hends with
  | genesisInvalid invalid =>
    refine h.simulates_error rfl ?_
    rw [Registry.update, invalid, Result.error_bind]
  | genesisConflict valid conflict =>
    rw [h.conflict?] at conflict
    refine h.simulates_error rfl ?_
    simp only [Registry.update, valid, Result.ok_bind, conflict]
  | @genesisRefused _ before record rest error valid unlocked records accepted refused =>
    rw [h.conflict?] at unlocked
    have hproven := provenBy_refused accepted refused rest
    rw [← records] at hproven
    refine h.simulates_error rfl ?_
    simp only [Registry.update, valid, Result.ok_bind, unlocked, hproven, Result.error_bind]
  | @genesisLoaded _ proven valid unlocked records accepted =>
    rw [h.conflict?] at unlocked
    have hproven := provenBy_accepted accepted
    rw [records] at hproven
    have hnode : ∀ key, state.nodeExchangeKey = some key → key.Fits := hfits.2 .nodeExchange
    have hio : ∀ key, state.ioKey = some key → key.Fits := hfits.2 .io
    have hall : ∀ entry ∈ proven.map fun entry => (entry.1.nodeId, entry.2), entry.2.Fits := by
      intro entry hentry
      obtain ⟨other, hother, rfl⟩ := List.mem_map.1 hentry
      have hcarried : other.2 ∈ state.records := records ▸ List.mem_map_of_mem hother
      exact hfits.1 other.2 hcarried
    have hloaded := ((h.setMasterKey? .nodeExchange hnode).setMasterKey? .io hio).setRecords hall
    have hupdate : registry.update keeper (.loadGenesis state) =
        .ok (.done, ((registry.setMasterKey? .nodeExchange state.nodeExchangeKey).setMasterKey? .io
          state.ioKey).setRecords (proven.map fun entry => (entry.1.nodeId, entry.2))) := by
      simp only [Registry.update, valid, Result.ok_bind, unlocked, hproven]
      rfl
    exact ⟨_, perform_ok hupdate, by simpa [Function.comp_def] using hloaded⟩

/-- An update ends on the store as it does on the registry that the store holds. -/
theorem simulates (h : registry.StoredIn store) {update : Update} (hfits : update.Fits)
    (hends : Update.Ends keeper store update result events) :
    Simulates registry store keeper update result events := by
  cases update with
  | setMasterKey type key => exact h.simulates_setMasterKey hfits hends
  | setRecord record => exact h.simulates_setRecord hfits hends
  | register certificate enclave => exact h.simulates_register hfits hends
  | bootstrapNetwork certificate nodeExchangeKey ioKey enclave =>
    exact h.simulates_bootstrapNetwork hfits hends
  | loadGenesis state => exact h.simulates_loadGenesis hfits hends

/-! ## Runs -/

theorem update_ne_badEntry (h : registry.StoredIn store) {update : Update}
    (hends : Update.Ends keeper store update result events) (fault : EntryFault) :
    result ≠ .error (.badEntry fault) := by
  cases hends with
  | registrationUnreadable accepted unreadable =>
    rw [h.provisionedSeed] at unreadable
    cases unreadable
  | @genesisInvalid state error invalid =>
    rintro ⟨⟩
    rw [Genesis.State.validate] at invalid
    split at invalid <;> cases invalid
  | _ => nofun

theorem reply_ne_badEntry (registry : Registry) (inquiry : Inquiry) (fault : EntryFault) :
    (registry.reply inquiry).result ≠ .error (.badEntry fault) := by
  cases inquiry with
  | bootstrapMaterial id =>
    rw [Registry.reply, material]
    split <;> nofun
  | _ => nofun

/-- One operation has the same reply on the store as on the registry, and no entry is in its way. -/
theorem perform (h : registry.StoredIn store) (keeper : Keeper) {operation : Operation}
    (hfits : operation.Fits) (trace : List Event) :
    (operation.perform keeper ⟨store, trace⟩).1 = (registry.perform keeper operation).1 ∧
      (registry.perform keeper operation).2.StoredIn
        (operation.perform keeper ⟨store, trace⟩).2.store ∧
      ∀ fault, (registry.perform keeper operation).1.result ≠ .error (.badEntry fault) := by
  cases operation with
  | inquiry inquiry => exact ⟨h.reply inquiry, h, reply_ne_badEntry registry inquiry⟩
  | update update =>
    obtain ⟨result, events, hends, hrun⟩ := update.run_perform keeper ⟨store, trace⟩
    obtain ⟨after, hafter, hstored⟩ := h.simulates hfits hends
    rw [hafter, Operation.perform, hrun]
    exact ⟨rfl, hstored, h.update_ne_badEntry hends⟩

theorem run (h : registry.StoredIn store) (keeper : Keeper) {operations : List Operation}
    (hfits : ∀ operation ∈ operations, operation.Fits) (trace : List Event) :
    (keeper.run operations ⟨store, trace⟩).1 = (Registry.run keeper operations registry).1 ∧
      (Registry.run keeper operations registry).2.StoredIn
        (keeper.run operations ⟨store, trace⟩).2.store ∧
      ∀ reply ∈ (Registry.run keeper operations registry).1, ∀ fault,
        reply.result ≠ .error (.badEntry fault) := by
  induction operations generalizing registry store trace with
  | nil => exact ⟨rfl, h, fun reply hreply => absurd hreply List.not_mem_nil⟩
  | cons operation rest ih =>
    obtain ⟨hreply, hstored, hread⟩ := h.perform keeper (hfits operation List.mem_cons_self) trace
    have hrest := fun other hother => hfits other (List.mem_cons_of_mem operation hother)
    obtain ⟨hreplies, hfinal, hreads⟩ :=
      ih hstored hrest (operation.perform keeper ⟨store, trace⟩).2.trace
    refine ⟨?_, hfinal, ?_⟩
    · exact congrArg₂ List.cons hreply hreplies
    · intro reply hmem
      rcases List.mem_cons.1 hmem with rfl | hmem
      · exact hread
      · exact hreads reply hmem

end StoredIn
end Registry

/-- Over any run from the empty store, a keeper replies as the typed registry does, operation by
operation, and its store holds the registry of that run. Nothing that is stored is unreadable. -/
theorem Keeper.run_refines_registry (keeper : Keeper) (operations : List Operation)
    (hfits : ∀ operation ∈ operations, operation.Fits) :
    (keeper.run operations ⟨MemoryStore.empty, []⟩).1 =
        (Registry.run keeper operations .empty).1 ∧
      (Registry.run keeper operations .empty).2.StoredIn (keeper.storeAfter operations) ∧
      ∀ reply ∈ (keeper.run operations ⟨MemoryStore.empty, []⟩).1, ∀ fault,
        reply.result ≠ .error (.badEntry fault) := by
  obtain ⟨hreplies, hstored, hreads⟩ := Registry.empty_storedIn.run keeper hfits []
  refine ⟨hreplies, hstored, ?_⟩
  rw [hreplies]
  exact hreads

theorem Keeper.run_refines_registry_sample :
    (∀ operation ∈ Operation.sample, operation.Fits) ∧
    ((Keeper.plain .setOnce).run Operation.sample ⟨MemoryStore.empty, []⟩).1 =
        (Registry.run (.plain .setOnce) Operation.sample .empty).1 ∧
      (Registry.run (.plain .setOnce) Operation.sample .empty).2.StoredIn
        ((Keeper.plain .setOnce).storeAfter Operation.sample) ∧
      ∀ reply ∈ ((Keeper.plain .setOnce).run Operation.sample ⟨MemoryStore.empty, []⟩).1,
        ∀ fault, reply.result ≠ .error (.badEntry fault) :=
  ⟨Operation.sample_fits,
    run_refines_registry (.plain .setOnce) Operation.sample Operation.sample_fits⟩

end EnclaveRegistry
