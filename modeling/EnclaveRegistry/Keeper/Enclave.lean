import EnclaveRegistry.Keeper.Error

/-! # Enclaves

An enclave makes seeds that only it and the receiving enclave can open, and starts from a seed and
both master keys. What it answers is up to it.
-/
namespace EnclaveRegistry

/-- What an enclave answers: to a seed and both master keys that it is to start from, to the
certificate of a node that needs a seed, and to the public key of the first node. -/
structure Enclave where
  loadSeed : Bytes → Bytes → Bytes → Except EnclaveError Unit
  encryptedSeed : Bytes → Except EnclaveError Bytes
  genesisSeed : Bytes → Except EnclaveError Bytes
  deriving Inhabited

/-- An enclave that accepts everything and makes empty seeds. -/
def Enclave.mock : Enclave := ⟨fun _ _ _ => .ok (), fun _ => .ok [], fun _ => .ok []⟩

inductive EnclaveCall where
  | loadSeed (seed nodeExchangeKey ioKey : Bytes)
  | encryptedSeed (certificate : Bytes)
  | genesisSeed (publicKey : Bytes)
  deriving DecidableEq, Inhabited

end EnclaveRegistry
