import EnclaveRegistry.Proofs.Keeper.Session
import Mathlib.Data.Finset.Card

/-! # What a history of writes leaves

A store that was empty at first holds the last value that was written under each key and nothing
else. How the writes were ordered otherwise cannot be told from it.
-/
namespace EnclaveRegistry.MemoryStore

/-- Whether a value is the last one that was written under a key. -/
def LastWritten (writes : List Entry) (key value : Bytes) : Prop :=
  ∃ before after, writes = before ++ (key, value) :: after ∧ ∀ entry ∈ after, entry.1 ≠ key

theorem exists_lastWritten {writes : List Entry} {key : Bytes}
    (h : key ∈ writes.map Prod.fst) : ∃ value, LastWritten writes key value := by
  induction writes with
  | nil => cases h
  | cons entry rest ih =>
    -- The first write counts only if no later one is under the same key.
    by_cases hrest : key ∈ rest.map Prod.fst
    · obtain ⟨value, before, after, rfl, hlast⟩ := ih hrest
      exact ⟨value, entry :: before, after, rfl, hlast⟩
    · obtain ⟨head, value⟩ := entry
      obtain rfl : key = head := (List.mem_cons.1 h).resolve_right hrest
      exact ⟨value, [], rest, rfl, fun other hother heq => hrest (heq ▸ List.mem_map_of_mem hother)⟩

variable {writes : List Entry}

theorem get?_of_lastWritten {key value : Bytes} (h : LastWritten writes key value) :
    KeyValueStore.get? (writeAll empty writes) key = some value := by
  obtain ⟨before, after, rfl, hlast⟩ := h
  exact get?_writeAll_last empty before hlast

theorem get?_eq_none_iff_not_mem {key : Bytes} :
    KeyValueStore.get? (writeAll empty writes) key = none ↔ key ∉ writes.map Prod.fst := by
  constructor
  · intro hnone hmem
    obtain ⟨value, hlast⟩ := exists_lastWritten hmem
    rw [get?_of_lastWritten hlast] at hnone
    cases hnone
  · intro hnot
    refine get?_writeAll_of_forall_ne (fun entry hentry heq => ?_) empty
    rw [← heq] at hnot
    exact hnot (List.mem_map_of_mem hentry)

theorem get?_eq_some_iff_lastWritten {key value : Bytes} :
    KeyValueStore.get? (writeAll empty writes) key = some value ↔ LastWritten writes key value := by
  refine ⟨fun hget => ?_, get?_of_lastWritten⟩
  have hmem : key ∈ writes.map Prod.fst := by
    by_contra hnot
    rw [get?_eq_none_iff_not_mem.2 hnot] at hget
    cases hget
  obtain ⟨last, hlast⟩ := exists_lastWritten hmem
  rw [get?_of_lastWritten hlast] at hget
  cases hget
  exact hlast

/-! ## Keys -/

def keys (store : MemoryStore) : List Bytes := store.entries.map Prod.fst

theorem nodup_keys (store : MemoryStore) : store.keys.Nodup := by
  refine List.pairwise_map.2 (store.ascending.imp fun {a b} hlt heq => ?_)
  rw [heq] at hlt
  exact List.lt_irrefl b.1 hlt

theorem mem_keys_iff {store : MemoryStore} {key : Bytes} :
    key ∈ store.keys ↔ KeyValueStore.get? store key ≠ none := by
  rw [Option.ne_none_iff_exists', keys, List.mem_map]
  constructor
  · rintro ⟨⟨found, value⟩, hentry, rfl⟩
    exact ⟨value, mem_entries.1 hentry⟩
  · rintro ⟨value, hvalue⟩
    exact ⟨(key, value), mem_entries.2 hvalue, rfl⟩

theorem size_writeAll_empty (writes : List Entry) :
    (writeAll empty writes).size = (writes.map Prod.fst).toFinset.card := by
  have hkeys : (writeAll empty writes).keys.toFinset = (writes.map Prod.fst).toFinset := by
    ext key
    rw [List.mem_toFinset, List.mem_toFinset, mem_keys_iff, ne_eq, get?_eq_none_iff_not_mem,
      not_not]
  rw [← hkeys, List.toFinset_card_of_nodup (nodup_keys _), keys, List.length_map, size]

/-- After any writes to the empty store, a key has the value that was written under it last, or
none if there was no such write; there are as many entries as different keys; and a scan, although
it stops at the first key that does not start with the prefix, yields all keys that do, each once,
in ascending order and with its last value. Two such stores are equal exactly if they map the same
keys to the same values. -/
theorem written_stores_are_ordered_maps (writes : List Entry) :
    (∀ key value, KeyValueStore.get? (writeAll empty writes) key = some value ↔
      LastWritten writes key value) ∧
    (∀ key, KeyValueStore.get? (writeAll empty writes) key = none ↔
      key ∉ writes.map Prod.fst) ∧
    (writeAll empty writes).size = (writes.map Prod.fst).toFinset.card ∧
    (∀ pre,
      KeyValueStore.scan (writeAll empty writes) pre =
        (writeAll empty writes).entries.filter (fun entry => pre.isPrefixOf entry.1) ∧
      ((KeyValueStore.scan (writeAll empty writes) pre).map Prod.fst).Pairwise (· < ·) ∧
      ∀ key value, (key, value) ∈ KeyValueStore.scan (writeAll empty writes) pre ↔
        pre <+: key ∧ LastWritten writes key value) ∧
    ∀ others, writeAll empty writes = writeAll empty others ↔
      ∀ key, KeyValueStore.get? (writeAll empty writes) key =
        KeyValueStore.get? (writeAll empty others) key := by
  refine ⟨fun key value => get?_eq_some_iff_lastWritten, fun key => get?_eq_none_iff_not_mem,
    size_writeAll_empty writes, fun pre => ⟨scan_eq_filter _ pre, ?_, fun key value => ?_⟩,
    fun others => ⟨fun h key => by rw [h], ext_get?⟩⟩
  · exact List.pairwise_map.2 (ascending_scan _ pre)
  · rw [mem_scan, get?_eq_some_iff_lastWritten]

/-- No key of one octet comes after this prefix, so that the scan ends with the store. -/
example : KeyValueStore.scan (writeAll empty [([255, 0], [1]), ([], [2]), ([255], [3]),
    ([254, 255], [4]), ([255, 255], [5]), ([255], [6])]) [255] =
      [([255], [6]), ([255, 0], [1]), ([255, 255], [5])] := by
  decide

end EnclaveRegistry.MemoryStore
