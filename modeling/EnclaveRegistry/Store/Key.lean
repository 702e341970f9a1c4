import EnclaveRegistry.Node.Id
import EnclaveRegistry.Node.MasterKey

/-! # Store keys

Registration records stand under the octet 1 followed by the node's identifier, master keys under
the octet 2 followed by the name of their type.
-/
namespace EnclaveRegistry

def registrationPrefix : Bytes := [1]

def masterKeyPrefix : Bytes := [2]

def NodeId.storeKey (id : NodeId) : Bytes := registrationPrefix ++ id.octets

def NodeId.ofStoreKey? : Bytes → Option NodeId
  | 1 :: octets => some ⟨octets⟩
  | _ => none

def MasterKeyType.storeKey (type : MasterKeyType) : Bytes :=
  masterKeyPrefix ++ Bytes.ascii type.tag

end EnclaveRegistry
