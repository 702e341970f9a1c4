import EnclaveRegistry.Attestation.Identity
import EnclaveRegistry.Curve.Ed25519
import EnclaveRegistry.Schema.Json

/-! # Mock certificates

Where there is no enclave, a node signs its own certificate: a JSON text with an Ed25519 key, a
nonce and the key's signature over both. Certificates of one key with different nonces differ but
prove the same identity.
-/
namespace EnclaveRegistry.Mock

open Schema (Described shapeOf)

structure Certificate where
  moduleId : String
  publicKey : Bytes
  nonce : UInt64
  signature : Bytes
  deriving DecidableEq, Inhabited

instance : Described Certificate where
  shape := .record "MockCertificate" true
    (.cons "module_id" (shapeOf String)
      (.cons "public_key" (.bytes .base64)
        (.cons "nonce" (shapeOf UInt64) (.cons "signature" (.bytes .base64) .nil))))
  view c := (c.moduleId, c.publicKey, c.nonce, c.signature, ())
  build values := ⟨values.1, values.2.1, values.2.2.1, values.2.2.2.1⟩
  build_view _ := rfl
  view_build _ := rfl

def moduleId : String := "mock-enclave"

def signingDomain : Bytes := Bytes.ascii "keyreg-mock-attestation-v1"

def signingMessage (publicKey : Bytes) (nonce : UInt64) : Bytes :=
  signingDomain ++ publicKey ++ Bytes.ofNatBE 8 nonce.toNat

/-- The certificate that a secret key signs for itself. -/
def issue (secret : Bytes) (nonce : UInt64) : Certificate :=
  let key := Curve.Ed25519.publicOctets secret
  ⟨moduleId, key, nonce, Curve.Ed25519.sign secret (signingMessage key nonce)⟩

def issueText (secret : Bytes) (nonce : UInt64) : Bytes := Schema.toJson (issue secret nonce)

def Certificate.key (certificate : Certificate) :
    Except AttestationError Curve.Ed25519.PublicKey :=
  if certificate.publicKey.length ≠ 32 then .error (.malformed .keyLength)
  else
    match Curve.Ed25519.PublicKey.ofOctets? certificate.publicKey with
    | some key => .ok key
    | none => .error (.malformed .keyNotOnCurve)

def read (text : Bytes) : Except AttestationError Certificate :=
  match Schema.ofJson Certificate text with
  | .error failure => .error (.malformed (.unreadable failure))
  | .ok certificate =>
    if certificate.moduleId ≠ moduleId then
      .error (.malformed (.otherModule certificate.moduleId))
    else .ok certificate

def verify (text : Bytes) : Except AttestationError Identity := do
  let certificate ← read text
  let key ← certificate.key
  let message := signingMessage certificate.publicKey certificate.nonce
  if certificate.signature.length = 64 ∧ Curve.Ed25519.verify key message certificate.signature then
    return ⟨.mock, certificate.publicKey⟩
  else .error .badSignature

def verifier : Verifier := ⟨.mock, verify⟩

end EnclaveRegistry.Mock
