import EnclaveRegistry.Proofs.Gateway.Consistency
import EnclaveRegistry.Proofs.Http.Target
import EnclaveRegistry.Proofs.Json.Numeral
import EnclaveRegistry.Store.Unfiltered

/-! # Records up to a limit

Visitors of a registry are shown its records in the order of their nodes, each once. A limit in the
target of a request is the number of records after which a visitor has enough, and the list that is
answered ends there.
-/
namespace EnclaveRegistry.Gateway

open KeyValueStore (get? scan)

/-! ## The limit of a request -/

end EnclaveRegistry.Gateway
