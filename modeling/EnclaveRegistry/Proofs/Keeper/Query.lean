import EnclaveRegistry.Proofs.Keeper.Operation
import EnclaveRegistry.Proofs.Result
import EnclaveRegistry.Proofs.Store.Key
import EnclaveRegistry.Proofs.Store.Memory

/-! # What queries read

A value that was written is read back, and a visitor is shown what the entries under the prefix of
records say.
-/
namespace EnclaveRegistry

theorem NodeRecord.provisionedSeed?_eq_none_iff {record : NodeRecord} :
    record.provisionedSeed? = none ↔ ∀ seed, record.seed = some seed → seed.octets = [] := by
  simp [provisionedSeed?]

theorem NodeRecord.provisionedSeed?_eq_some_iff {record : NodeRecord} {seed : EncryptedSeed} :
    record.provisionedSeed? = some seed ↔ record.seed = some seed ∧ seed.octets ≠ [] := by
  simp [provisionedSeed?, Option.filter_eq_some_iff]

namespace Query

open Result (bind_eq_ok_iff)
open Schema (Described)

theorem decode_toRecord {α : Type} [Described α] {a : α} (h : Schema.Fits a) :
    decode α (Schema.toRecord a) = .ok a := by
  rw [decode, Schema.ofRecord_toRecord h]

theorem lookup_eq_ok_none_iff {α : Type} [Described α] {store : MemoryStore} {key : Bytes} :
    lookup α store key = .ok none ↔ KeyValueStore.get? store key = none := by
  rw [lookup]
  cases hget : KeyValueStore.get? store key with
  | none => simp
  | some value => cases hread : decode α value <;> simp [hread]

theorem lookup_of_get?_eq_some {α : Type} [Described α] {store : MemoryStore} {key : Bytes} {a : α}
    (h : KeyValueStore.get? store key = some (Schema.toRecord a)) (hfits : Schema.Fits a) :
    lookup α store key = .ok (some a) := by
  rw [lookup, h]
  exact congrArg (Except.map some) (decode_toRecord hfits)

theorem lookup_eq_ok_some_iff {α : Type} [Described α] {store : MemoryStore} {key : Bytes} {a : α} :
    lookup α store key = .ok (some a) ↔
      ∃ value, KeyValueStore.get? store key = some value ∧ decode α value = .ok a := by
  rw [lookup]
  cases hget : KeyValueStore.get? store key with
  | none => simp
  | some value => cases hread : decode α value <;> simp [hread]

theorem entryOf_eq_ok_iff {key value : Bytes} {shown : RegistrationEntry} :
    entryOf (key, value) = .ok shown ↔
      key = shown.nodeId.storeKey ∧ decode NodeRecord value = .ok shown.record := by
  rw [entryOf]
  cases hkey : NodeId.ofStoreKey? key with
  | none =>
    have hne : key ≠ shown.nodeId.storeKey := by
      rintro rfl
      cases hkey
    simp [hne]
  | some id =>
    obtain rfl := NodeId.ofStoreKey?_eq_some_iff.1 hkey
    cases hread : decode NodeRecord value with
    | error error => simp
    | ok record => cases shown; simp

theorem entryOf_storeKey (id : NodeId) {record : NodeRecord} (h : record.Fits) :
    entryOf (id.storeKey, Schema.toRecord record) = .ok ⟨id, record⟩ := by
  simp only [entryOf, NodeId.ofStoreKey?_storeKey, decode_toRecord h.schema]
  rfl

/-! ## Seeds

A seed that is there but empty is none, wherever it is looked for. -/

theorem isProvisioned_eq (record : NodeRecord) :
    record.isProvisioned = record.provisionedSeed?.isSome := by
  rw [NodeRecord.isProvisioned, NodeRecord.provisionedSeed?, Option.isSome_filter]

theorem isAuthenticated_eq (store : MemoryStore) (id : NodeId) :
    isAuthenticated store id = (provisionedSeed store id).map Option.isSome := by
  rw [isAuthenticated, provisionedSeed]
  cases nodeRecord store id with
  | error error => rfl
  | ok found =>
    cases found with
    | none => rfl
    | some record => exact congrArg Except.ok (isProvisioned_eq record)

theorem bootstrapMaterial_eq (store : MemoryStore) (id : NodeId) :
    bootstrapMaterial store id = provisionedSeed store id >>= fun
      | none => .error (.notAuthenticated id)
      | some seed => do
        return ⟨seed, ← requireMasterKey store .nodeExchange, ← requireMasterKey store .io⟩ := by
  rw [bootstrapMaterial, provisionedSeed]
  cases nodeRecord store id with
  | error error => rfl
  | ok found => cases found <;> rfl

/-! ## Visits -/

/-- The visitor that keeps what it is shown. -/
abbrev keeping (enough : List RegistrationEntry → Bool) (seen : List RegistrationEntry)
    (entry : RegistrationEntry) : List RegistrationEntry × Bool :=
  (seen ++ [entry], enough (seen ++ [entry]))

theorem mem_visitEntries {enough : List RegistrationEntry → Bool} {seen : List RegistrationEntry}
    {entries : List Entry} {shown : RegistrationEntry}
    (h : shown ∈ (visitEntries (keeping enough) seen entries).1) :
    shown ∈ seen ∨ ∃ entry ∈ entries, entryOf entry = .ok shown := by
  induction entries generalizing seen with
  | nil => exact .inl h
  | cons entry rest ih =>
    cases hentry : entryOf entry with
    | error error =>
      rw [visitEntries, hentry] at h
      exact .inl h
    | ok read =>
      have hnew : ∀ {shown}, shown ∈ seen ++ [read] →
          shown ∈ seen ∨ ∃ other ∈ entry :: rest, entryOf other = .ok shown := by
        intro shown hshown
        rcases List.mem_append.1 hshown with hshown | hshown
        · exact .inl hshown
        · rw [List.mem_singleton.1 hshown]
          exact .inr ⟨entry, List.mem_cons_self, hentry⟩
      cases henough : enough (seen ++ [read]) with
      | true =>
        simp only [visitEntries, hentry, keeping, henough] at h
        exact hnew h
      | false =>
        simp only [visitEntries, hentry, keeping, henough] at h
        rcases ih h with h | ⟨other, hother, hread⟩
        · exact hnew h
        · exact .inr ⟨other, List.mem_cons_of_mem entry hother, hread⟩

theorem mem_visited {store : MemoryStore} {enough : List RegistrationEntry → Bool}
    {shown : RegistrationEntry} (h : shown ∈ (visited store enough).1) :
    ∃ entry ∈ KeyValueStore.scan store registrationPrefix, entryOf entry = .ok shown := by
  rcases mem_visitEntries h with h | h
  · cases h
  · exact h

/-- A visitor is shown nothing but what is found under the node that it is shown for. -/
theorem nodeRecord_of_mem_visited {store : MemoryStore} {enough : List RegistrationEntry → Bool}
    {shown : RegistrationEntry} (h : shown ∈ (visited store enough).1) :
    nodeRecord store shown.nodeId = .ok (some shown.record) := by
  obtain ⟨⟨key, value⟩, hmem, hread⟩ := mem_visited h
  obtain ⟨rfl, hrecord⟩ := entryOf_eq_ok_iff.1 hread
  exact lookup_eq_ok_some_iff.2 ⟨value, (MemoryStore.mem_scan.1 hmem).2, hrecord⟩

theorem entries_eq_visited (store : MemoryStore) :
    entries store = (visited store fun _ => false).2.map fun _ =>
      (visited store fun _ => false).1 := by
  have hvisit : visit store (collect none) [] = visited store fun _ => false := rfl
  rw [entries, entriesUpTo, if_neg nofun, hvisit]
  cases visited store fun _ => false with
  | mk seen result => cases result <;> rfl

theorem entries_eq_ok_iff {store : MemoryStore} {shown : List RegistrationEntry} :
    entries store = .ok shown ↔
      (visited store fun _ => false).1 = shown ∧ (visited store fun _ => false).2 = .ok () := by
  rw [entries_eq_visited]
  cases (visited store fun _ => false).2 <;> simp [Except.map]

theorem nodeRecord_of_mem_state {store : MemoryStore} {state : Genesis.State}
    (h : Query.state store = .ok state) {record : NodeRecord} (hrecord : record ∈ state.records) :
    ∃ id, nodeRecord store id = .ok (some record) := by
  obtain ⟨shown, hshown, h⟩ := bind_eq_ok_iff.1 h
  obtain ⟨nodeExchangeKey, -, h⟩ := bind_eq_ok_iff.1 h
  obtain ⟨ioKey, -, h⟩ := bind_eq_ok_iff.1 h
  cases h
  obtain ⟨entry, hentry, rfl⟩ := List.mem_map.1 hrecord
  obtain ⟨rfl, -⟩ := entries_eq_ok_iff.1 hshown
  exact ⟨entry.nodeId, nodeRecord_of_mem_visited hentry⟩

end Query
end EnclaveRegistry
