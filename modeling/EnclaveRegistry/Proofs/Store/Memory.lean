import Mathlib.Data.List.Sort
import EnclaveRegistry.Store.Memory

/-! # Stores in memory are ordered maps

A store is determined by what its keys map to, a write changes what one key maps to, and a scan
yields the entries whose keys start with the prefix, although it stops at the first that does not.
-/
namespace EnclaveRegistry.MemoryStore

abbrev Ascending (entries : List Entry) : Prop := entries.Pairwise fun a b => a.1 < b.1

theorem lookup_cons (key head value : Bytes) (rest : List Entry) :
    ((head, value) :: rest).lookup key = if key = head then some value else rest.lookup key := by
  by_cases h : key = head
  · simp [h]
  · simp [List.lookup_cons, beq_eq_false_iff_ne.2 h, h]

theorem lookup_insert (key value other : Bytes) (entries : List Entry) :
    (insert key value entries).lookup other =
      if other = key then some value else entries.lookup other := by
  induction entries with
  | nil => simp [insert]
  | cons entry rest ih =>
    obtain ⟨head, old⟩ := entry
    by_cases hlt : key < head
    · simp [insert, hlt, lookup_cons]
    · by_cases heq : key = head
      · subst heq
        by_cases h : other = key <;> simp [insert, hlt, lookup_cons, h]
      · by_cases h : other = head
        · have hne : ¬ head = key := fun h => heq h.symm
          simp [insert, hlt, heq, h, hne]
        · simp [insert, hlt, heq, lookup_cons, h, ih]

@[simp] theorem get?_empty (key : Bytes) : KeyValueStore.get? empty key = none := rfl

theorem get?_set (store : MemoryStore) (key value other : Bytes) :
    KeyValueStore.get? (KeyValueStore.set store key value) other =
      if other = key then some value else KeyValueStore.get? store other :=
  lookup_insert key value other store.entries

@[simp] theorem get?_set_self (store : MemoryStore) (key value : Bytes) :
    KeyValueStore.get? (KeyValueStore.set store key value) key = some value := by
  simp [get?_set]

theorem get?_set_of_ne (store : MemoryStore) {key other : Bytes} (value : Bytes)
    (h : other ≠ key) :
    KeyValueStore.get? (KeyValueStore.set store key value) other =
      KeyValueStore.get? store other := by
  simp [get?_set, h]

theorem lookup_eq_some_iff {entries : List Entry} (h : Ascending entries) (key value : Bytes) :
    entries.lookup key = some value ↔ (key, value) ∈ entries := by
  induction entries with
  | nil => simp
  | cons entry rest ih =>
    obtain ⟨head, old⟩ := entry
    obtain ⟨hhead, hrest⟩ := List.pairwise_cons.1 h
    by_cases heq : key = head
    · subst heq
      have hnot : (key, value) ∉ rest := fun hmem => List.lt_irrefl key (hhead (key, value) hmem)
      simp [hnot, eq_comm]
    · simp [lookup_cons, heq, ih hrest]

theorem mem_entries {store : MemoryStore} {key value : Bytes} :
    (key, value) ∈ store.entries ↔ KeyValueStore.get? store key = some value :=
  (lookup_eq_some_iff store.ascending key value).symm

/-- A store is what its keys map to. -/
theorem ext_get? {a b : MemoryStore}
    (h : ∀ key, KeyValueStore.get? a key = KeyValueStore.get? b key) : a = b := by
  have hentries : a.entries = b.entries := by
    refine List.Pairwise.eq_of_mem_iff a.ascending b.ascending ?_
    rintro ⟨key, value⟩
    rw [mem_entries, mem_entries, h]
  cases a
  cases b
  cases hentries
  rfl

/-! ## Scans -/

/-- Along related elements, a test that only ever turns false takes the elements that pass it. -/
theorem takeWhile_eq_filter {α : Type} {r : α → α → Prop} {p : α → Bool} {l : List α}
    (hl : l.Pairwise r) (hp : ∀ a ∈ l, ∀ b ∈ l, r a b → p b = true → p a = true) :
    l.takeWhile p = l.filter p := by
  induction l with
  | nil => rfl
  | cons a rest ih =>
    obtain ⟨ha, hrest⟩ := List.pairwise_cons.1 hl
    by_cases h : p a = true
    · have htail := ih hrest fun b hb c hc =>
        hp b (List.mem_cons_of_mem a hb) c (List.mem_cons_of_mem a hc)
      simp [h, htail]
    · have hnone : ∀ b ∈ rest, ¬ p b = true := fun b hb hpb =>
        h (hp a List.mem_cons_self b (List.mem_cons_of_mem a hb) (ha b hb) hpb)
      rw [List.takeWhile_cons_of_neg h, List.filter_cons_of_neg h, List.filter_eq_nil_iff.2 hnone]

theorem dropWhile_eq_filter {α : Type} {r : α → α → Prop} {p : α → Bool} {l : List α}
    (hl : l.Pairwise r) (hp : ∀ a ∈ l, ∀ b ∈ l, r a b → p b = true → p a = true) :
    l.dropWhile p = l.filter fun a => !p a := by
  induction l with
  | nil => rfl
  | cons a rest ih =>
    obtain ⟨ha, hrest⟩ := List.pairwise_cons.1 hl
    by_cases h : p a = true
    · have htail := ih hrest fun b hb c hc =>
        hp b (List.mem_cons_of_mem a hb) c (List.mem_cons_of_mem a hc)
      simp [h, htail]
    · have hall : ∀ b ∈ a :: rest, (!p b) = true := by
        intro b hb
        rcases List.mem_cons.1 hb with rfl | hb
        · simpa using h
        · have hpb : ¬ p b = true := fun hpb =>
            h (hp a List.mem_cons_self b (List.mem_cons_of_mem a hb) (ha b hb) hpb)
          simpa using hpb
      rw [List.dropWhile_cons_of_neg h, List.filter_eq_self.2 hall]

theorem not_lt_of_prefix {pre key : Bytes} (h : pre <+: key) : ¬ key < pre := by
  induction pre generalizing key with
  | nil => exact List.not_lt_nil key
  | cons b pre ih =>
    obtain ⟨rest, rfl⟩ := h
    intro hlt
    rcases List.cons_lt_cons_iff.1 hlt with hlt | ⟨-, hlt⟩
    · exact UInt8.lt_irrefl b hlt
    · exact ih (List.prefix_append pre rest) hlt

/-- The keys that start with a prefix are an interval from the prefix upward. -/
theorem prefix_of_between {pre low high : Bytes} (hlow : ¬ low < pre) (hlt : low < high)
    (hhigh : pre <+: high) : pre <+: low := by
  induction pre generalizing low high with
  | nil => exact List.nil_prefix
  | cons b pre ih =>
    obtain ⟨rest, rfl⟩ := hhigh
    cases low with
    | nil => exact absurd (List.nil_lt_cons b pre) hlow
    | cons a low =>
      have hle : ¬ a < b := fun h => hlow (List.cons_lt_cons_iff.2 (.inl h))
      rcases List.cons_lt_cons_iff.1 hlt with h | ⟨rfl, htail⟩
      · exact absurd h hle
      · have hrest : ¬ low < pre := fun h => hlow (List.cons_lt_cons_iff.2 (.inr ⟨rfl, h⟩))
        exact List.cons_prefix_cons.2 ⟨rfl, ih hrest htail (List.prefix_append pre rest)⟩

/-- A scan misses no key that starts with the prefix. -/
theorem scan_eq_filter (store : MemoryStore) (pre : Bytes) :
    KeyValueStore.scan store pre = store.entries.filter fun entry => pre.isPrefixOf entry.1 := by
  have hdrop : (store.entries.dropWhile fun entry => decide (entry.1 < pre)) =
      store.entries.filter fun entry => !decide (entry.1 < pre) := by
    refine dropWhile_eq_filter store.ascending fun a _ b _ hab hb => ?_
    exact decide_eq_true (List.lt_trans hab (of_decide_eq_true hb))
  have htake : ((store.entries.filter fun entry => !decide (entry.1 < pre)).takeWhile
      fun entry => pre.isPrefixOf entry.1) =
      (store.entries.filter fun entry => !decide (entry.1 < pre)).filter
        fun entry => pre.isPrefixOf entry.1 := by
    refine takeWhile_eq_filter (store.ascending.filter _) fun a ha b _ hab hb => ?_
    have hlow : ¬ a.1 < pre := by simpa using (List.mem_filter.1 ha).2
    rw [List.isPrefixOf_iff_prefix] at hb ⊢
    exact prefix_of_between hlow hab hb
  calc KeyValueStore.scan store pre
      = (store.entries.filter fun entry => !decide (entry.1 < pre)).filter
          fun entry => pre.isPrefixOf entry.1 := by
        rw [← htake, ← hdrop]
        rfl
    _ = store.entries.filter fun entry => pre.isPrefixOf entry.1 := by
        rw [List.filter_filter]
        refine List.filter_congr fun entry _ => ?_
        by_cases h : pre <+: entry.1
        · simp [List.isPrefixOf_iff_prefix.2 h, not_lt_of_prefix h]
        · simp [List.isPrefixOf_iff_prefix, h]

theorem ascending_scan (store : MemoryStore) (pre : Bytes) :
    Ascending (KeyValueStore.scan store pre) := by
  rw [scan_eq_filter]
  exact store.ascending.filter _

theorem mem_scan {store : MemoryStore} {pre key value : Bytes} :
    (key, value) ∈ KeyValueStore.scan store pre ↔
      pre <+: key ∧ KeyValueStore.get? store key = some value := by
  rw [scan_eq_filter, List.mem_filter, mem_entries, List.isPrefixOf_iff_prefix, and_comm]

end EnclaveRegistry.MemoryStore
