import EnclaveRegistry.Proofs.Keeper.Provenance
import EnclaveRegistry.Proofs.Keeper.Refinement

/-! # An exported state restores its store

The state that a store is exported as has all that the store holds: the registry behind it comes
back when the state is loaded into an empty store, and a registry has only one store.
-/
namespace EnclaveRegistry

namespace Registry

variable (registry : Registry)

def state : Genesis.State :=
  ⟨registry.entries.map RegistrationEntry.record, registry.masterKey? .nodeExchange,
    registry.masterKey? .io⟩

@[simp] theorem masterKey?_state (type : MasterKeyType) :
    registry.state.masterKey? type = registry.masterKey? type := by
  cases type <;> rfl

/-! ## Writes of several records -/

@[simp] theorem setRecords_masterKey? (records : List (NodeId × NodeRecord)) :
    (registry.setRecords records).masterKey? = registry.masterKey? := by
  induction records generalizing registry with
  | nil => rfl
  | cons entry rest ih => exact ih (registry.setRecord entry.1 entry.2)

@[simp] theorem setMasterKey?_records (type : MasterKeyType) (key : Option MasterKey) :
    (registry.setMasterKey? type key).records = registry.records := by
  cases key <;> rfl

theorem setMasterKey?_masterKey? (type other : MasterKeyType) (key : Option MasterKey) :
    (registry.setMasterKey? type key).masterKey? other =
      if other = type then key.or (registry.masterKey? type) else registry.masterKey? other := by
  cases key with
  | none => by_cases h : other = type <;> simp [setMasterKey?, h]
  | some key => exact registry.setMasterKey_masterKey? type other key

variable {registry}

theorem setRecords_of_forall_ne {records : List (NodeId × NodeRecord)} {id : NodeId}
    (h : ∀ entry ∈ records, entry.1 ≠ id) :
    (registry.setRecords records).records[id]? = registry.records[id]? := by
  induction records generalizing registry with
  | nil => rfl
  | cons entry rest ih =>
    obtain ⟨hne, hrest⟩ := List.forall_mem_cons.1 h
    change ((registry.setRecord entry.1 entry.2).setRecords rest).records[id]? = _
    rw [ih hrest, setRecord_records, if_neg hne.symm]

theorem setRecords_of_mem {records : List (NodeId × NodeRecord)}
    (hdistinct : records.Pairwise fun a b => a.1 ≠ b.1) {id : NodeId} {record : NodeRecord}
    (h : (id, record) ∈ records) : (registry.setRecords records).records[id]? = some record := by
  induction records generalizing registry with
  | nil => exact absurd h List.not_mem_nil
  | cons entry rest ih =>
    obtain ⟨hne, hrest⟩ := List.pairwise_cons.1 hdistinct
    change ((registry.setRecord entry.1 entry.2).setRecords rest).records[id]? = _
    rcases List.mem_cons.1 h with rfl | h
    · rw [setRecords_of_forall_ne fun other hother => (hne other hother).symm, setRecord_records,
        if_pos rfl]
    · exact ih hrest h

theorem setRecords_entries (start : Registry) (h : start.records = ∅) (id : NodeId) :
    (start.setRecords (registry.entries.map fun entry => (entry.nodeId, entry.record))).records[id]?
      = registry.records[id]? := by
  cases hrecord : registry.records[id]? with
  | none =>
    rw [setRecords_of_forall_ne, h, Std.ExtTreeMap.getElem?_empty]
    intro other hother heq
    obtain ⟨entry, hentry, rfl⟩ := List.mem_map.1 hother
    rw [← heq, registry.mem_entries.1 hentry] at hrecord
    cases hrecord
  | some record =>
    refine setRecords_of_mem (List.pairwise_map.2 (registry.pairwise_entries.imp ?_)) ?_
    · intro a b hlt heq
      have hid : a.nodeId = b.nodeId := heq
      rw [hid] at hlt
      exact List.lt_irrefl b.nodeId.octets hlt
    · exact List.mem_map.2 ⟨⟨id, record⟩, registry.mem_entries.2 hrecord, rfl⟩

/-- An empty registry into which the state of another one has been loaded. -/
def reloaded (registry : Registry) : Registry :=
  ((empty.setMasterKey? .nodeExchange (registry.masterKey? .nodeExchange)).setMasterKey? .io
    (registry.masterKey? .io)).setRecords
      (registry.entries.map fun entry => (entry.nodeId, entry.record))

/-- The state of a registry has all of it. -/
theorem reloaded_eq (registry : Registry) : registry.reloaded = registry := by
  have hrecords : registry.reloaded.records = registry.records := by
    refine Std.ExtTreeMap.ext_getElem? fun id => setRecords_entries _ ?_ id
    rw [setMasterKey?_records, setMasterKey?_records, empty]
  have hkeys : registry.reloaded.masterKey? = registry.masterKey? := by
    funext type
    rw [reloaded, setRecords_masterKey?]
    cases type <;> simp [setMasterKey?_masterKey?, empty]
  cases registry
  exact congrArg₂ Registry.mk hrecords hkeys

namespace StoredIn

variable {store : MemoryStore}

theorem readState (h : registry.StoredIn store) : Query.state store = .ok registry.state := by
  simp only [Query.state, h.readEntries, h.readMasterKey]
  rfl

theorem get?_of_storedIn {other : MemoryStore} (h : registry.StoredIn store)
    (hother : registry.StoredIn other) {key value : Bytes}
    (hget : KeyValueStore.get? store key = some value) :
    KeyValueStore.get? other key = some value := by
  rcases h.nothingElse key value hget with ⟨id, rfl⟩ | ⟨type, rfl⟩
  · rw [hother.record, ← h.record, hget]
  · rw [hother.masterKey, ← h.masterKey, hget]

/-- A registry has only one store. -/
theorem unique {other : MemoryStore} (h : registry.StoredIn store)
    (hother : registry.StoredIn other) : store = other :=
  MemoryStore.ext_get? fun _ =>
    Option.ext fun _ => ⟨h.get?_of_storedIn hother, hother.get?_of_storedIn h⟩

theorem state_fits (h : registry.StoredIn store) : (Update.loadGenesis registry.state).Fits := by
  refine ⟨fun record hrecord => ?_, fun type key hkey => ?_⟩
  · obtain ⟨entry, hentry, rfl⟩ := List.mem_map.1 hrecord
    exact h.recordFits (registry.mem_entries.1 hentry)
  · rw [Update.CarriesKey, masterKey?_state] at hkey
    exact h.masterKeyFits hkey

end StoredIn
end Registry

def Verifier.RefusesEmpty (verifier : Verifier) : Prop :=
  ∃ error, verifier.verify [] = .error error

namespace Keeper

variable {keeper : Keeper}

theorem exists_accepted_of_proves {entries : List RegistrationEntry}
    (h : ∀ entry ∈ entries, keeper.Proves entry.record entry.nodeId) :
    ∃ proven : List (Identity × NodeRecord),
      (∀ entry ∈ proven, keeper.Accepts entry.2.certificate entry.1) ∧
      proven.map Prod.snd = entries.map RegistrationEntry.record ∧
      proven.map (fun entry => (entry.1.nodeId, entry.2)) =
        entries.map fun entry => (entry.nodeId, entry.record) := by
  induction entries with
  | nil => exact ⟨[], nofun, rfl, rfl⟩
  | cons entry rest ih =>
    obtain ⟨identity, haccepts, hid⟩ := h entry List.mem_cons_self
    obtain ⟨proven, hproven, hrecords, hnodes⟩ := ih fun other hother =>
      h other (List.mem_cons_of_mem entry hother)
    refine ⟨(identity, entry.record) :: proven, ?_, ?_, ?_⟩
    · exact List.forall_mem_cons.2 ⟨haccepts, hproven⟩
    · rw [List.map_cons, List.map_cons, hrecords]
    · rw [List.map_cons, List.map_cons, hnodes, hid]

theorem validate_eq_ok (hempty : keeper.verifier.RefusesEmpty) {state : Genesis.State}
    (h : ∀ record ∈ state.records, ∃ identity, keeper.Accepts record.certificate identity) :
    state.validate = .ok () := by
  have hnone : state.records.findIdx? (fun record => record.certificate.octets.isEmpty) = none := by
    rw [List.findIdx?_eq_none_iff]
    intro record hrecord
    obtain ⟨identity, haccepts⟩ := h record hrecord
    obtain ⟨error, hrefuses⟩ := hempty
    cases hoctets : record.certificate.octets with
    | nil =>
      rw [Accepts, hoctets, hrefuses] at haccepts
      cases haccepts
    | cons octet rest => rfl
  rw [Genesis.State.validate, hnone]

theorem conflict?_empty (policy : MasterKeyPolicy) (state : Genesis.State) :
    Registry.empty.conflict? policy state = none := by
  simp [Registry.conflict?, Registry.isLocked, Registry.empty]

theorem update_loadGenesis_state (hempty : keeper.verifier.RefusesEmpty) {registry : Registry}
    (hproves : ∀ entry ∈ registry.entries, keeper.Proves entry.record entry.nodeId) :
    Registry.empty.update keeper (.loadGenesis registry.state) = .ok (.done, registry) := by
  obtain ⟨proven, haccepted, hrecords, hnodes⟩ := exists_accepted_of_proves hproves
  have hvalid : registry.state.validate = .ok () := by
    refine validate_eq_ok hempty fun record hrecord => ?_
    obtain ⟨entry, hentry, rfl⟩ := List.mem_map.1 hrecord
    obtain ⟨identity, haccepts, -⟩ := hproves entry hentry
    exact ⟨identity, haccepts⟩
  have hproven : Registry.provenBy keeper registry.state.records =
      .ok (registry.entries.map fun entry => (entry.nodeId, entry.record)) := by
    rw [← hnodes, ← Registry.StoredIn.provenBy_accepted haccepted, hrecords]
    rfl
  have hupdate : Registry.empty.update keeper (.loadGenesis registry.state) =
      .ok (.done, registry.reloaded) := by
    simp only [Registry.update, hvalid, Result.ok_bind, conflict?_empty, hproven]
    rfl
  rw [hupdate, registry.reloaded_eq]

/-- An exported state restores the store that it was exported from. -/
theorem run_loadGenesis_state (keeper : Keeper) (hempty : keeper.verifier.RefusesEmpty)
    {registry : Registry} {store : MemoryStore} (h : registry.StoredIn store)
    (hproves : ∀ entry ∈ registry.entries, keeper.Proves entry.record entry.nodeId) :
    ∃ trace, (keeper.loadGenesis registry.state : Transaction MemoryStore Unit).run ⟨.empty, []⟩ =
      (.ok (), ⟨store, trace⟩) := by
  have hupdate := Registry.perform_ok (update_loadGenesis_state hempty hproves)
  have hfits : (Operation.update (.loadGenesis registry.state)).Fits := h.state_fits
  obtain ⟨hreply, hstored, -⟩ := Registry.empty_storedIn.perform keeper hfits []
  cases hrun : (keeper.loadGenesis registry.state : Transaction MemoryStore Unit).run
      ⟨.empty, []⟩ with
  | mk result session =>
    have hperform : (Operation.update (.loadGenesis registry.state)).perform keeper
        ⟨MemoryStore.empty, []⟩ = (⟨[], result.map fun _ => Answer.done⟩, session) := by
      rw [Operation.perform, Update.perform, Transaction.run_map hrun]
    rw [hupdate, hperform] at hreply hstored
    have hsame : session.store = store := hstored.unique h
    cases result with
    | error error => cases hreply
    | ok _ => exact ⟨session.trace, by rw [← hsame]⟩

end Keeper
end EnclaveRegistry
