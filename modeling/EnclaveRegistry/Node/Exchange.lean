import EnclaveRegistry.Node.MasterKey
import EnclaveRegistry.Node.Record

/-! # Exchanged messages

What a node is given to start its enclave, and the requests and answers of the gateway.
-/
namespace EnclaveRegistry

open Schema (Described shapeOf)

/-- Everything an enclave needs to start: its seed and both master keys. -/
structure BootstrapMaterial where
  seed : EncryptedSeed
  nodeExchangeKey : MasterKey
  ioKey : MasterKey
  deriving DecidableEq, Inhabited

instance : Described BootstrapMaterial where
  shape := .record "BootstrapMaterial" false
    (.cons "encrypted_seed" (shapeOf EncryptedSeed)
      (.cons "node_exch_master_key" (shapeOf MasterKey)
        (.cons "io_master_key" (shapeOf MasterKey) .nil)))
  view m := (Described.view m.seed, Described.view m.nodeExchangeKey, Described.view m.ioKey, ())
  build values :=
    ⟨Described.build values.1, Described.build values.2.1, Described.build values.2.2.1⟩
  build_view _ := by simp [Described.build_view]
  view_build _ := by simp [Described.view_build]

structure RegisterRequest where
  certificate : Certificate
  deriving DecidableEq, Inhabited

instance : Described RegisterRequest where
  shape := .record "RegisterRequest" false (.cons "certificate" (shapeOf Certificate) .nil)
  view r := (Described.view r.certificate, ())
  build values := ⟨Described.build values.1⟩
  build_view _ := by simp [Described.build_view]
  view_build _ := by simp [Described.view_build]

structure RegisterResponse where
  nodeId : NodeId
  seed : EncryptedSeed
  deriving DecidableEq, Inhabited

instance : Described RegisterResponse where
  shape := .record "RegisterResponse" false
    (.cons "node_id" (shapeOf NodeId) (.cons "encrypted_seed" (shapeOf EncryptedSeed) .nil))
  view r := (Described.view r.nodeId, Described.view r.seed, ())
  build values := ⟨Described.build values.1, Described.build values.2.1⟩
  build_view _ := by simp [Described.build_view]
  view_build _ := by simp [Described.view_build]

/-- Whether a node has been handed a seed. -/
structure AuthenticationStatus where
  nodeId : NodeId
  authenticated : Bool
  deriving DecidableEq, Inhabited

instance : Described AuthenticationStatus where
  shape := .record "AuthenticationStatus" false
    (.cons "node_id" (shapeOf NodeId) (.cons "authenticated" (shapeOf Bool) .nil))
  view s := (Described.view s.nodeId, Described.view s.authenticated, ())
  build values := ⟨Described.build values.1, Described.build values.2.1⟩
  build_view _ := by simp [Described.build_view]
  view_build _ := by simp [Described.view_build]

/-- A record together with the identifier it is stored under. -/
structure RegistrationEntry where
  nodeId : NodeId
  record : NodeRecord
  deriving DecidableEq, Inhabited

instance : Described RegistrationEntry where
  shape := .record "RegistrationEntry" false
    (.cons "node_id" (shapeOf NodeId) (.cons "info" (shapeOf NodeRecord) .nil))
  view e := (Described.view e.nodeId, Described.view e.record, ())
  build values := ⟨Described.build values.1, Described.build values.2.1⟩
  build_view _ := by simp [Described.build_view]
  view_build _ := by simp [Described.view_build]

structure RegistrationList where
  entries : List RegistrationEntry
  deriving DecidableEq, Inhabited

instance : Described RegistrationList where
  shape := .record "RegistrationList" false
    (.cons "registrations" (shapeOf (List RegistrationEntry)) .nil)
  view l := (Described.view l.entries, ())
  build values := ⟨Described.build values.1⟩
  build_view _ := by simp [Described.build_view]
  view_build _ := by simp [Described.view_build]

end EnclaveRegistry
