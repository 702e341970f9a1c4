import EnclaveRegistry.Proofs.Keeper.Outcome
import EnclaveRegistry.Proofs.Keeper.Query

/-! # Where stored entries come from

Every entry of a registry was carried by one of its updates: a record stands under the identity
that its own certificate proves, and anything else is a master key under its type.
-/
namespace EnclaveRegistry

def Keeper.Proves (keeper : Keeper) (record : NodeRecord) (id : NodeId) : Prop :=
  ∃ identity, keeper.Accepts record.certificate identity ∧ identity.nodeId = id

/-- The entries that an update may write. -/
inductive Update.MayWrite (keeper : Keeper) (update : Update) : Entry → Prop
  | record {id record} (carried : update.Carries record) (proven : keeper.Proves record id) :
    MayWrite keeper update (recordEntry id record)
  | masterKey {type key} (carried : update.CarriesKey type key) :
    MayWrite keeper update (masterKeyEntry type key)

namespace MemoryStore

theorem mem_writeAll {store : MemoryStore} {entries : List Entry} {entry : Entry}
    (h : entry ∈ (writeAll store entries).entries) : entry ∈ entries ∨ entry ∈ store.entries := by
  induction entries generalizing store with
  | nil => exact .inr h
  | cons written rest ih =>
    rcases ih h with h | h
    · exact .inl (List.mem_cons_of_mem written h)
    · rcases mem_insert h with rfl | h
      · exact .inl List.mem_cons_self
      · exact .inr h

end MemoryStore

namespace Update

variable {keeper : Keeper} {store : MemoryStore} {update : Update} {entry : Entry}

theorem Ends.mayWrite {result : Except KeeperError Answer} {events : List Event}
    (h : Ends keeper store update result events) (hentry : entry ∈ Event.entries events) :
    update.MayWrite keeper entry := by
  cases h with
  | keySet =>
    obtain rfl := List.mem_singleton.1 hentry
    exact .masterKey ⟨rfl, rfl⟩
  | recordSet accepted =>
    obtain rfl := List.mem_singleton.1 hentry
    exact .record rfl ⟨_, accepted, rfl⟩
  | registered accepted fresh granted =>
    obtain rfl := List.mem_singleton.1 hentry
    exact .record ⟨_, granted, rfl⟩ ⟨_, accepted, rfl⟩
  | networkSet undefined accepted granted =>
    simp at hentry
    rcases hentry with rfl | rfl | rfl
    · exact .masterKey rfl
    · exact .masterKey rfl
    · exact .record ⟨_, _, granted, rfl⟩ ⟨_, accepted, rfl⟩
  | @genesisLoaded state proven valid unlocked records accepted =>
    simp only [Event.entries_append, entries_masterKeyEvents?, entries_recordsEvents,
      Event.entries_noticed, Event.entries_nil, List.append_nil, List.mem_append,
      Option.mem_toList, Option.map_eq_some_iff, List.mem_map] at hentry
    rcases hentry with ⟨key, hkey, rfl⟩ | ⟨key, hkey, rfl⟩ | ⟨⟨identity, record⟩, hmem, rfl⟩
    · exact .masterKey hkey
    · exact .masterKey hkey
    · have hcarried : record ∈ state.records := by
        rw [← records]
        exact List.mem_map.2 ⟨_, hmem, rfl⟩
      exact .record hcarried ⟨identity, accepted _ hmem, rfl⟩
  | _ => cases hentry

end Update

namespace Keeper

variable {keeper : Keeper} {operations : List Operation}

/-- Every entry of a store was carried by an update that may write it. -/
theorem exists_mayWrite_of_mem_storeAfter {entry : Entry}
    (h : entry ∈ (keeper.storeAfter operations).entries) :
    ∃ update, .update update ∈ operations ∧ update.MayWrite keeper entry := by
  have hall : ∀ entry ∈ (keeper.storeAfter operations).entries,
      ∃ update, .update update ∈ operations ∧ update.MayWrite keeper entry := by
    refine run_store_induction (P := fun store => ∀ entry ∈ store.entries,
      ∃ update, .update update ∈ operations ∧ update.MayWrite keeper entry) ?_ ⟨.empty, []⟩ ?_
    · intro update store result events hmem ih hends entry hentry
      rcases MemoryStore.mem_writeAll hentry with hentry | hentry
      · exact ⟨update, hmem, hends.mayWrite hentry⟩
      · exact ih entry hentry
    · intro entry hentry
      cases hentry
  exact hall entry h

/-- A record that is read again is one that was written, so that its certificate proves its node. -/
theorem proves_of_nodeRecord (hfits : ∀ operation ∈ operations, operation.Fits) {id : NodeId}
    {record : NodeRecord}
    (h : Query.nodeRecord (keeper.storeAfter operations) id = .ok (some record)) :
    keeper.Proves record id := by
  obtain ⟨value, hget, hread⟩ := Query.lookup_eq_ok_some_iff.1 h
  have hstored := MemoryStore.mem_entries.2 hget
  obtain ⟨update, hmem, hwrite⟩ := exists_mayWrite_of_mem_storeAfter hstored
  -- The key alone tells the two kinds of entries apart, and the value gives the record back.
  generalize hentry : (id.storeKey, value) = entry at hwrite
  cases hwrite with
  | @record other written carried proven =>
    obtain ⟨hkey, rfl⟩ := Prod.mk.inj hentry
    obtain rfl := NodeId.storeKey_inj.1 hkey
    have hwritten : written.Fits := (hfits _ hmem).1 written carried
    rw [Query.decode_toRecord hwritten.schema] at hread
    cases hread
    exact proven
  | masterKey => exact absurd (Prod.mk.inj hentry).1 (id.storeKey_ne _)

/-- Whether an entry is the record of a node whose own certificate proves it. -/
def ProvenEntry (keeper : Keeper) (entry : Entry) : Prop :=
  ∃ id record, keeper.Proves record id ∧ entry = recordEntry id record

def MasterKeyEntry (entry : Entry) : Prop := ∃ type key, entry = masterKeyEntry type key

/-- In every store that a keeper can reach, an entry is either a record under the identity that its
certificate proves or a master key. No query answers with a record of a node that its certificate
does not prove. -/
theorem stored_records_are_proven (keeper : Keeper) (operations : List Operation) :
    (∀ entry ∈ (keeper.storeAfter operations).entries,
      Xor (keeper.ProvenEntry entry) (MasterKeyEntry entry)) ∧
    ((∀ operation ∈ operations, operation.Fits) →
      (∀ id record, Query.nodeRecord (keeper.storeAfter operations) id = .ok (some record) →
        keeper.Proves record id) ∧
      (∀ enough, ∀ shown ∈ (Query.visited (keeper.storeAfter operations) enough).1,
        keeper.Proves shown.record shown.nodeId) ∧
      ∀ state, Query.state (keeper.storeAfter operations) = .ok state →
        ∀ record ∈ state.records, ∃ id, keeper.Proves record id ∧
          Query.nodeRecord (keeper.storeAfter operations) id = .ok (some record)) := by
  refine ⟨?_, fun hfits => ⟨?_, ?_, ?_⟩⟩
  · intro entry hentry
    obtain ⟨update, -, hwrite⟩ := exists_mayWrite_of_mem_storeAfter hentry
    cases hwrite with
    | @record id record carried proven =>
      refine .inl ⟨⟨id, record, proven, rfl⟩, ?_⟩
      rintro ⟨type, key, heq⟩
      exact id.storeKey_ne type (Prod.mk.inj heq).1
    | @masterKey type key carried =>
      refine .inr ⟨⟨type, key, rfl⟩, ?_⟩
      rintro ⟨id, record, -, heq⟩
      exact type.storeKey_ne id (Prod.mk.inj heq).1
  · intro id record h
    exact proves_of_nodeRecord hfits h
  · intro enough shown hshown
    exact proves_of_nodeRecord hfits (Query.nodeRecord_of_mem_visited hshown)
  · intro state hstate record hrecord
    obtain ⟨id, hid⟩ := Query.nodeRecord_of_mem_state hstate hrecord
    exact ⟨id, proves_of_nodeRecord hfits hid, hid⟩

theorem stored_records_are_proven_sample :
    (∀ operation ∈ Operation.sample, operation.Fits) ∧
    Query.nodeRecord ((Keeper.plain .overwrite).storeAfter Operation.sample) ⟨[7]⟩ =
      .ok (some ⟨⟨[7]⟩, none⟩) ∧
    (Keeper.plain .overwrite).Proves ⟨⟨[7]⟩, none⟩ ⟨[7]⟩ := by
  obtain ⟨-, hqueries⟩ := stored_records_are_proven (.plain .overwrite) Operation.sample
  obtain ⟨hrecord, -, -⟩ := hqueries Operation.sample_fits
  exact ⟨Operation.sample_fits, rfl, hrecord ⟨[7]⟩ ⟨⟨[7]⟩, none⟩ rfl⟩

end Keeper
end EnclaveRegistry
