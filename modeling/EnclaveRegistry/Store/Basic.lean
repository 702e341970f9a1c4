import EnclaveRegistry.Bytes

/-! # Key-value stores

A store keeps one value under each key and can list what stands under a range of keys. Nothing is
ever removed, so a key without a value has never been written.
-/
namespace EnclaveRegistry

abbrev Entry := Bytes × Bytes

/-- What a registry needs of a store. `scan` answers the entries under a prefix; which entries a
store takes for those is its own affair. -/
class KeyValueStore (σ : Type) where
  get? : σ → Bytes → Option Bytes
  set : σ → Bytes → Bytes → σ
  scan : σ → Bytes → List Entry

end EnclaveRegistry
