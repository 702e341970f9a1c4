import EnclaveRegistry.Store.Memory

/-! # Stores that list too much

An unfiltered store answers every scan with all its entries, whatever the prefix. A registry has to
notice the entries that it did not ask for.
-/
namespace EnclaveRegistry

/-- A store in memory whose scans ignore the prefix. -/
structure UnfilteredStore where
  base : MemoryStore
  deriving DecidableEq, Inhabited

instance : KeyValueStore UnfilteredStore where
  get? store key := store.base.get? key
  set store key value := ⟨store.base.set key value⟩
  scan store _ := store.base.entries

end EnclaveRegistry
