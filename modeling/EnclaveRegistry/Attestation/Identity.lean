import EnclaveRegistry.Attestation.Error
import EnclaveRegistry.Hash.Sha2
import EnclaveRegistry.Node.Id

/-! # Proven identities

A verifier turns a certificate into the identity that it proves. The registry takes a node's
identifier from a proven identity and from nowhere else.
-/
namespace EnclaveRegistry

inductive Platform where
  | mock
  | nitro
  deriving DecidableEq, Inhabited

def Platform.name : Platform → String
  | mock => "mock"
  | nitro => "aws_nitro"

/-- What a certificate proves: the platform and the public key of a node. -/
structure Identity where
  platform : Platform
  publicKey : Bytes
  deriving DecidableEq, Inhabited

def Identity.nodeId (identity : Identity) : NodeId := ⟨identity.publicKey⟩

structure Verifier where
  platform : Platform
  verify : Bytes → Except AttestationError Identity
  deriving Inhabited

/-- The hexadecimal SHA-256 digest of a certificate, by which logs refer to it. -/
def fingerprint (certificate : Bytes) : String := Hex.encode (Hash.sha256 certificate)

end EnclaveRegistry
