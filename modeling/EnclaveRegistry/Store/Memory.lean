import EnclaveRegistry.Store.Basic

/-! # Stores in memory

A store in memory is the list of its entries, keys strictly ascending. A scan starts at the first
key that is not below the prefix and stops at the first that does not start with it.
-/
namespace EnclaveRegistry

/-- Entries in strictly ascending order of their keys. -/
structure MemoryStore where
  entries : List Entry
  ascending : entries.Pairwise fun a b => a.1 < b.1

namespace MemoryStore

instance : DecidableEq MemoryStore := fun a b =>
  match decEq a.entries b.entries with
  | isTrue h => isTrue (by cases a; cases b; cases h; rfl)
  | isFalse h => isFalse fun hab => h (congrArg entries hab)

def empty : MemoryStore := ⟨[], .nil⟩

instance : Inhabited MemoryStore := ⟨empty⟩

def size (store : MemoryStore) : Nat := store.entries.length

def isEmpty (store : MemoryStore) : Bool := store.entries.isEmpty

def get? (store : MemoryStore) (key : Bytes) : Option Bytes := store.entries.lookup key

/-- Puts an entry in its place among ascending entries, in place of one with the same key. -/
def insert (key value : Bytes) : List Entry → List Entry
  | [] => [(key, value)]
  | entry :: rest =>
    if key < entry.1 then (key, value) :: entry :: rest
    else if key = entry.1 then (key, value) :: rest
    else entry :: insert key value rest

theorem mem_insert {key value : Bytes} {entries : List Entry} {entry : Entry}
    (h : entry ∈ insert key value entries) : entry = (key, value) ∨ entry ∈ entries := by
  induction entries with
  | nil => simpa [insert] using h
  | cons head rest ih =>
    unfold insert at h
    split at h
    · simpa using h
    · split at h
      · simp only [List.mem_cons] at h ⊢
        exact h.elim .inl fun h => .inr (.inr h)
      · simp only [List.mem_cons] at h ⊢
        rcases h with h | h
        · exact .inr (.inl h)
        · exact (ih h).elim .inl fun h => .inr (.inr h)

theorem pairwise_insert (key value : Bytes) {entries : List Entry}
    (h : entries.Pairwise fun a b => a.1 < b.1) :
    (insert key value entries).Pairwise fun a b => a.1 < b.1 := by
  induction entries with
  | nil => simp [insert]
  | cons head rest ih =>
    obtain ⟨hhead, hrest⟩ := List.pairwise_cons.1 h
    unfold insert
    split
    · rename_i hlt
      refine List.pairwise_cons.2 ⟨fun entry hentry => ?_, h⟩
      rcases List.mem_cons.1 hentry with rfl | hentry
      · exact hlt
      · exact List.lt_trans hlt (hhead entry hentry)
    · split
      · rename_i heq
        refine List.pairwise_cons.2 ⟨fun entry hentry => ?_, hrest⟩
        subst heq
        exact hhead entry hentry
      · rename_i hnlt hne
        refine List.pairwise_cons.2 ⟨fun entry hentry => ?_, ih hrest⟩
        rcases mem_insert hentry with rfl | hentry
        · exact Std.lt_of_le_of_ne (Std.not_lt.1 hnlt) (Ne.symm hne)
        · exact hhead entry hentry

def set (store : MemoryStore) (key value : Bytes) : MemoryStore :=
  ⟨insert key value store.entries, pairwise_insert key value store.ascending⟩

/-- The entries from a prefix upward while their keys start with it. -/
def scan (store : MemoryStore) (pre : Bytes) : List Entry :=
  (store.entries.dropWhile fun entry => entry.1 < pre).takeWhile fun entry =>
    pre.isPrefixOf entry.1

instance : KeyValueStore MemoryStore where
  get? := get?
  set := set
  scan := scan

end MemoryStore
end EnclaveRegistry
