import EnclaveRegistry.Proofs.Keeper.Provenance

/-! # What an update can change

An update changes nothing but the master keys that it brings and the records of the nodes that its
certificates prove. Whoever cannot prove to be a node has no way to its record.
-/
namespace EnclaveRegistry

def Keeper.Identifies (keeper : Keeper) (certificate : Certificate) (id : NodeId) : Prop :=
  ∃ identity, keeper.Accepts certificate identity ∧ identity.nodeId = id

namespace Update

def Presents : Update → Certificate → Prop
  | setMasterKey _ _, _ => False
  | setRecord record, certificate => certificate = record.certificate
  | register presented _, certificate => certificate = presented
  | bootstrapNetwork presented _ _ _, certificate => certificate = presented
  | loadGenesis state, certificate => ∃ record ∈ state.records, certificate = record.certificate

/-- The store keys that an update may write under. -/
def Footprint (keeper : Keeper) : Update → Bytes → Prop
  | setMasterKey type _, key => key = type.storeKey
  | setRecord record, key => ∃ id, keeper.Identifies record.certificate id ∧ key = id.storeKey
  | register certificate _, key => ∃ id, keeper.Identifies certificate id ∧ key = id.storeKey
  | bootstrapNetwork certificate _ _ _, key =>
    (∃ type : MasterKeyType, key = type.storeKey) ∨
      ∃ id, keeper.Identifies certificate id ∧ key = id.storeKey
  | loadGenesis state, key =>
    (∃ type, (state.masterKey? type).isSome ∧ key = type.storeKey) ∨
      ∃ record ∈ state.records, ∃ id, keeper.Identifies record.certificate id ∧ key = id.storeKey

variable {keeper : Keeper} {update : Update}

theorem MayWrite.footprint {entry : Entry} (h : update.MayWrite keeper entry) :
    update.Footprint keeper entry.1 := by
  cases h with
  | @record id record carried proven =>
    cases update with
    | setMasterKey => cases carried
    | setRecord other =>
      obtain rfl : record = other := carried
      exact ⟨id, proven, rfl⟩
    | register certificate enclave =>
      obtain ⟨seed, -, rfl⟩ := carried
      exact ⟨id, proven, rfl⟩
    | bootstrapNetwork certificate nodeExchangeKey ioKey enclave =>
      obtain ⟨publicKey, seed, -, rfl⟩ := carried
      exact .inr ⟨id, proven, rfl⟩
    | loadGenesis state => exact .inr ⟨record, carried, id, proven, rfl⟩
  | @masterKey type key carried =>
    cases update with
    | setMasterKey other value =>
      obtain ⟨rfl, -⟩ := carried
      rfl
    | setRecord => cases carried
    | register => cases carried
    | bootstrapNetwork => exact .inl ⟨type, rfl⟩
    | loadGenesis state => exact .inl ⟨type, Option.isSome_of_eq_some carried, rfl⟩

theorem exists_identifies_of_footprint {id : NodeId} (h : update.Footprint keeper id.storeKey) :
    ∃ certificate, update.Presents certificate ∧ keeper.Identifies certificate id := by
  cases update with
  | setMasterKey type key => exact absurd h (id.storeKey_ne type)
  | setRecord record =>
    obtain ⟨other, hother, hkey⟩ := h
    obtain rfl := NodeId.storeKey_inj.1 hkey
    exact ⟨record.certificate, rfl, hother⟩
  | register certificate enclave =>
    obtain ⟨other, hother, hkey⟩ := h
    obtain rfl := NodeId.storeKey_inj.1 hkey
    exact ⟨certificate, rfl, hother⟩
  | bootstrapNetwork certificate nodeExchangeKey ioKey enclave =>
    rcases h with ⟨type, hkey⟩ | ⟨other, hother, hkey⟩
    · exact absurd hkey (id.storeKey_ne type)
    · obtain rfl := NodeId.storeKey_inj.1 hkey
      exact ⟨certificate, rfl, hother⟩
  | loadGenesis state =>
    rcases h with ⟨type, -, hkey⟩ | ⟨record, hrecord, other, hother, hkey⟩
    · exact absurd hkey (id.storeKey_ne type)
    · obtain rfl := NodeId.storeKey_inj.1 hkey
      exact ⟨record.certificate, ⟨record, hrecord, rfl⟩, hother⟩

end Update

/-! ## Frames -/

theorem Update.Ends.get?_eq_of_not_footprint {keeper : Keeper} {store : MemoryStore}
    {update : Update} {result : Except KeeperError Answer} {events : List Event} {key : Bytes}
    (h : Ends keeper store update result events) (hkey : ¬ update.Footprint keeper key) :
    KeyValueStore.get? (writeAll store (Event.entries events)) key =
      KeyValueStore.get? store key := by
  refine MemoryStore.get?_writeAll_of_forall_ne (fun entry hentry heq => hkey ?_) store
  rw [← heq]
  exact (h.mayWrite hentry).footprint

namespace Keeper

/-- A run leaves alone what is outside the footprints of its updates. -/
theorem get?_run_of_not_footprint {keeper : Keeper} {operations : List Operation} {key : Bytes}
    (h : ∀ update, .update update ∈ operations → ¬ update.Footprint keeper key)
    (session : Session MemoryStore) :
    KeyValueStore.get? (keeper.run operations session).2.store key =
      KeyValueStore.get? session.store key := by
  refine run_store_induction
    (P := fun store => KeyValueStore.get? store key = KeyValueStore.get? session.store key)
    ?_ session rfl
  intro update store result events hmem hstore hends
  rw [hends.get?_eq_of_not_footprint (h update hmem), hstore]

theorem not_identifies_of_accepts {keeper : Keeper} {certificate : Certificate}
    {identity : Identity} {id : NodeId} (h : keeper.Accepts certificate identity)
    (hne : identity.nodeId ≠ id) : ¬ keeper.Identifies certificate id := by
  rintro ⟨other, hother, rfl⟩
  exact hne (congrArg Identity.nodeId (h.unique hother))

end Keeper

namespace Query

variable {before after : MemoryStore} {id : NodeId}

theorem nodeRecord_congr (h : KeyValueStore.get? after id.storeKey =
    KeyValueStore.get? before id.storeKey) : nodeRecord after id = nodeRecord before id := by
  rw [nodeRecord, nodeRecord, lookup, lookup, h]

theorem provisionedSeed_congr (h : nodeRecord after id = nodeRecord before id) :
    provisionedSeed after id = provisionedSeed before id := by
  rw [provisionedSeed, provisionedSeed, h]

theorem isAuthenticated_congr (h : nodeRecord after id = nodeRecord before id) :
    isAuthenticated after id = isAuthenticated before id := by
  rw [isAuthenticated, isAuthenticated, h]

theorem provisionedSeed_of_bootstrapMaterial {store : MemoryStore} {material : BootstrapMaterial}
    (h : bootstrapMaterial store id = .ok material) :
    provisionedSeed store id = .ok (some material.seed) := by
  rw [bootstrapMaterial_eq] at h
  obtain ⟨seed?, hseed, h⟩ := Result.bind_eq_ok_iff.1 h
  cases seed? with
  | none => cases h
  | some seed =>
    obtain ⟨nodeExchangeKey, -, h⟩ := Result.bind_eq_ok_iff.1 h
    obtain ⟨ioKey, -, h⟩ := Result.bind_eq_ok_iff.1 h
    cases h
    exact hseed

end Query

/-- Whatever a store holds, an update changes it under no key outside its footprint, and a question
does not change it at all. Operations without a certificate of a node change neither its record nor
whether it is authenticated nor its seed. -/
theorem Keeper.updates_stay_in_their_footprint (keeper : Keeper) :
    (∀ (session : Session MemoryStore) (update : Update) (key : Bytes),
      ¬ update.Footprint keeper key →
        KeyValueStore.get? ((update.perform keeper).run session).2.store key =
          KeyValueStore.get? session.store key) ∧
    (∀ (session : Session MemoryStore) (inquiry : Inquiry),
      ((Operation.inquiry inquiry).perform keeper session).2 = session) ∧
    ∀ (session final : Session MemoryStore) (operations : List Operation) (id : NodeId),
      (keeper.run operations session).2 = final →
      (∀ update, .update update ∈ operations → ∀ certificate, update.Presents certificate →
        ¬ keeper.Identifies certificate id) →
      Query.nodeRecord final.store id = Query.nodeRecord session.store id ∧
        Query.isAuthenticated final.store id = Query.isAuthenticated session.store id ∧
        Query.provisionedSeed final.store id = Query.provisionedSeed session.store id ∧
        ∀ material, Query.bootstrapMaterial final.store id = .ok material →
          Query.provisionedSeed session.store id = .ok (some material.seed) := by
  refine ⟨?_, fun _ _ => rfl, ?_⟩
  · intro session update key hkey
    obtain ⟨result, events, hends, hrun⟩ := update.run_perform keeper session
    rw [hrun]
    exact hends.get?_eq_of_not_footprint hkey
  · rintro session final operations id rfl hpresented
    have hrecord : Query.nodeRecord (keeper.run operations session).2.store id =
        Query.nodeRecord session.store id := by
      refine Query.nodeRecord_congr (get?_run_of_not_footprint ?_ session)
      intro update hmem hfootprint
      obtain ⟨certificate, hcertificate, hid⟩ := Update.exists_identifies_of_footprint hfootprint
      exact hpresented update hmem certificate hcertificate hid
    have hseed := Query.provisionedSeed_congr hrecord
    refine ⟨hrecord, Query.isAuthenticated_congr hrecord, hseed, fun material hmaterial => ?_⟩
    rw [← hseed]
    exact Query.provisionedSeed_of_bootstrapMaterial hmaterial

def Update.longerNode : Update := .setRecord ⟨⟨[7, 7]⟩, some ⟨[1]⟩⟩

theorem Update.longerNode_presents (certificate : Certificate)
    (h : longerNode.Presents certificate) :
    ¬ (Keeper.plain .overwrite).Identifies certificate ⟨[7]⟩ := by
  obtain rfl : certificate = ⟨[7, 7]⟩ := h
  have haccepted : (Keeper.plain .overwrite).Accepts ⟨[7, 7]⟩ ⟨.mock, [7, 7]⟩ := rfl
  exact Keeper.not_identifies_of_accepts haccepted (by decide)

theorem Keeper.updates_stay_in_their_footprint_longerNode :
    (¬ Update.longerNode.Footprint (.plain .overwrite) (NodeId.mk [7]).storeKey ∧
      KeyValueStore.get? ((Update.longerNode.perform (.plain .overwrite)).run
        Session.sample).2.store (NodeId.mk [7]).storeKey =
          KeyValueStore.get? Session.sample.store (NodeId.mk [7]).storeKey) ∧
    (∀ update, .update update ∈ [Operation.update Update.longerNode] →
      ∀ certificate, update.Presents certificate →
        ¬ (Keeper.plain .overwrite).Identifies certificate ⟨[7]⟩) ∧
    Query.nodeRecord ((Keeper.plain .overwrite).run [.update Update.longerNode]
      Session.sample).2.store ⟨[7]⟩ = Query.nodeRecord Session.sample.store ⟨[7]⟩ := by
  obtain ⟨hframe, -, hrun⟩ := updates_stay_in_their_footprint (.plain .overwrite)
  have hfootprint : ¬ Update.longerNode.Footprint (.plain .overwrite) (NodeId.mk [7]).storeKey := by
    intro h
    obtain ⟨certificate, hpresented, hid⟩ := Update.exists_identifies_of_footprint h
    exact Update.longerNode_presents certificate hpresented hid
  have hoperations : ∀ update, .update update ∈ [Operation.update Update.longerNode] →
      ∀ certificate, update.Presents certificate →
        ¬ (Keeper.plain .overwrite).Identifies certificate ⟨[7]⟩ := by
    intro update hmem
    obtain rfl : update = Update.longerNode := by simpa using hmem
    exact Update.longerNode_presents
  refine ⟨⟨hfootprint, hframe _ Update.longerNode _ hfootprint⟩, hoperations, ?_⟩
  exact (hrun Session.sample _ [.update Update.longerNode] ⟨[7]⟩ rfl hoperations).1

end EnclaveRegistry
