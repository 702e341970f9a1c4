import EnclaveRegistry.Node.Id

/-! # Registration records

A node's record holds the certificate it registered with and, once the network has handed one out,
its seed. The seed is sealed for the enclave that proved the certificate; here it is opaque.
-/
namespace EnclaveRegistry

open Schema (Described shapeOf)

/-- An attestation certificate, kept octet by octet. -/
structure Certificate where
  octets : Bytes
  deriving DecidableEq, Inhabited

/-- A seed sealed for one enclave. -/
structure EncryptedSeed where
  octets : Bytes
  deriving DecidableEq, Inhabited

instance : Described Certificate where
  shape := .bytes .base64
  view certificate := certificate.octets
  build octets := ⟨octets⟩
  build_view _ := rfl
  view_build _ := rfl

instance : Described EncryptedSeed where
  shape := .bytes .base64
  view seed := seed.octets
  build octets := ⟨octets⟩
  build_view _ := rfl
  view_build _ := rfl

structure NodeRecord where
  certificate : Certificate
  seed : Option EncryptedSeed
  deriving DecidableEq, Inhabited

namespace NodeRecord

def provisionedSeed? (record : NodeRecord) : Option EncryptedSeed :=
  record.seed.filter fun seed => !seed.octets.isEmpty

/-- Whether the node has been handed a seed that is not empty. -/
def isProvisioned (record : NodeRecord) : Bool :=
  record.seed.any fun seed => !seed.octets.isEmpty

instance : Described NodeRecord where
  shape := .record "RegistrationNodeInfo" false
    (.cons "certificate" (shapeOf Certificate)
      (.cons "encrypted_seed" (shapeOf (Option EncryptedSeed)) .nil))
  view record := (Described.view record.certificate, Described.view record.seed, ())
  build values := ⟨Described.build values.1, Described.build values.2.1⟩
  build_view _ := by simp [Described.build_view]
  view_build _ := by simp [Described.view_build]

end NodeRecord
end EnclaveRegistry
