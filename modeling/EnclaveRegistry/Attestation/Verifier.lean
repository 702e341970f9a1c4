import EnclaveRegistry.Attestation.Mock
import EnclaveRegistry.Attestation.Nitro

/-! # Verifiers by name

A verifier is chosen by the name of its platform.
-/
namespace EnclaveRegistry.Verifier

/-- The verifier of the named platform; Nitro certificates are traced to the vendor's root. -/
def named (name : String) : Except AttestationError Verifier :=
  if name = Platform.nitro.name then .ok (Nitro.verifier Nitro.vendorRoot)
  else if name = Platform.mock.name then .ok Mock.verifier
  else .error (.unsupportedPlatform name)

end EnclaveRegistry.Verifier
