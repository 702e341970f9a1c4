import EnclaveRegistry.Keeper.Query
import EnclaveRegistry.Keeper.Session

/-! # Keeping a registry

A keeper writes records under the identity that their certificate proves, and master keys under
their type. It checks everything before it writes anything. Each operation is one transaction, and
transactions follow one another.
-/
namespace EnclaveRegistry

/-- The rules of a registry: who verifies certificates, and whether master keys may be replaced. -/
structure Keeper where
  verifier : Verifier
  policy : MasterKeyPolicy
  deriving Inhabited

namespace Keeper

open Transaction (notice refuse store write)

variable {σ : Type} [KeyValueStore σ] (keeper : Keeper)

def identify (certificate : Certificate) : Except KeeperError Identity :=
  match keeper.verifier.verify certificate.octets with
  | .ok identity => .ok identity
  | .error error => .error (.invalidCertificate error)

def isLocked (s : σ) (type : MasterKeyType) : Bool :=
  keeper.policy == .setOnce && Query.isMasterKeyDefined s type

def setMasterKey (type : MasterKeyType) (key : MasterKey) : Transaction σ Unit := do
  if keeper.isLocked (← store) type then refuse (.alreadyDefined type)
  write type.storeKey (Schema.toRecord key)
  notice (.masterKeySet type key.octets.length)

/-- Writes a record under the identity that its certificate proves, in place of any other one. -/
def setRecord (record : NodeRecord) : Transaction σ NodeId := do
  match keeper.verifier.verify record.certificate.octets with
  | .error error =>
    notice (.registrationRefused (fingerprint record.certificate.octets) error)
    refuse (.invalidCertificate error)
  | .ok identity =>
    write identity.nodeId.storeKey (Schema.toRecord record)
    notice (.recordWritten identity.nodeId identity.platform record.isProvisioned)
    return identity.nodeId

/-- Registers the node that a certificate proves. A node that has a seed is given the same one
again; for any other the enclave makes one. -/
def register (certificate : Certificate) (enclave : Enclave) :
    Transaction σ (NodeId × EncryptedSeed) := do
  let id := (← ofExcept (keeper.identify certificate)).nodeId
  match ← ofExcept (Query.provisionedSeed (← store) id) with
  | some seed =>
    notice (.seedReturned id)
    return (id, seed)
  | none =>
    let seed ← Transaction.call (.encryptedSeed certificate.octets)
      (enclave.encryptedSeed certificate.octets)
    discard (keeper.setRecord ⟨certificate, some ⟨seed⟩⟩)
    return (id, ⟨seed⟩)

def definedMasterKey? (s : σ) : Option MasterKeyType :=
  MasterKeyType.all.find? (Query.isMasterKeyDefined s)

/-- Sets up a network with its first node and both master keys, unless there is one already. -/
def bootstrapNetwork (certificate : Certificate) (nodeExchangeKey ioKey : MasterKey)
    (enclave : Enclave) : Transaction σ NodeId := do
  match definedMasterKey? (← store) with
  | some type => refuse (.alreadyDefined type)
  | none =>
    let identity ← ofExcept (keeper.identify certificate)
    let seed ← Transaction.call (.genesisSeed identity.publicKey)
      (enclave.genesisSeed identity.publicKey)
    keeper.setMasterKey .nodeExchange nodeExchangeKey
    keeper.setMasterKey .io ioKey
    let id ← keeper.setRecord ⟨certificate, some ⟨seed⟩⟩
    notice (.networkBootstrapped id)
    return id

end Keeper

def BootstrapMaterial.loadInto {σ : Type} (material : BootstrapMaterial) (enclave : Enclave) :
    Transaction σ Unit := do
  let seed := material.seed.octets
  let nodeExchangeKey := material.nodeExchangeKey.octets
  let ioKey := material.ioKey.octets
  Transaction.call (.loadSeed seed nodeExchangeKey ioKey)
    (enclave.loadSeed seed nodeExchangeKey ioKey)
  Transaction.notice .materialLoaded

end EnclaveRegistry
