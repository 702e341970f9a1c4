import EnclaveRegistry.Store.Key

/-! # Store keys do not collide

A store key tells what stands under it: the node of a record, or the type of a master key. Records
stand in the order of their nodes.
-/
namespace EnclaveRegistry

namespace NodeId

theorem storeKey_eq_cons (id : NodeId) : id.storeKey = 1 :: id.octets := rfl

@[simp] theorem storeKey_inj {a b : NodeId} : a.storeKey = b.storeKey ↔ a = b := by
  cases a
  cases b
  simp [storeKey_eq_cons]

theorem storeKey_lt_iff {a b : NodeId} : a.storeKey < b.storeKey ↔ a < b := by
  rw [storeKey_eq_cons, storeKey_eq_cons, List.cons_lt_cons_iff]
  exact ⟨fun h => h.elim (fun h => absurd h (UInt8.lt_irrefl 1)) And.right, fun h => .inr ⟨rfl, h⟩⟩

theorem ofStoreKey?_eq_some_iff {key : Bytes} {id : NodeId} :
    ofStoreKey? key = some id ↔ key = id.storeKey := by
  unfold ofStoreKey?
  split
  · rename_i octets
    cases id
    simp [storeKey_eq_cons]
  · rename_i h
    refine ⟨nofun, fun hkey => ?_⟩
    exact absurd (hkey.trans id.storeKey_eq_cons) (h id.octets)

@[simp] theorem ofStoreKey?_storeKey (id : NodeId) : ofStoreKey? id.storeKey = some id := rfl

theorem prefix_iff_exists_storeKey {key : Bytes} :
    registrationPrefix <+: key ↔ ∃ id : NodeId, key = id.storeKey := by
  constructor
  · rintro ⟨octets, rfl⟩
    exact ⟨⟨octets⟩, rfl⟩
  · rintro ⟨id, rfl⟩
    exact List.prefix_append registrationPrefix id.octets

/-- No record stands under the key of a master key, whatever the octets of its node. -/
theorem storeKey_ne (id : NodeId) (type : MasterKeyType) : id.storeKey ≠ type.storeKey := by
  intro h
  exact absurd (List.cons.inj h).1 (by decide)

end NodeId

namespace MasterKeyType

@[simp] theorem storeKey_inj {a b : MasterKeyType} : a.storeKey = b.storeKey ↔ a = b := by
  revert a b
  have h : nodeExchange.storeKey ≠ io.storeKey := by decide
  rintro (_ | _) (_ | _) <;> simp [h, h.symm]

theorem storeKey_ne (type : MasterKeyType) (id : NodeId) : type.storeKey ≠ id.storeKey :=
  (id.storeKey_ne type).symm

end MasterKeyType
end EnclaveRegistry
