import EnclaveRegistry.Keeper.Start
import EnclaveRegistry.Proofs.Gateway.Registration

/-! # The stores that a gateway comes to

A gateway starts on an empty store or on the state of a document. Whatever is done to its keeper
and whatever it is asked after that, its store holds a registry and nothing else.
-/
namespace EnclaveRegistry.Gateway

/-- Whether the certificate that a turn brings and the seed that its enclave makes of it are shorter
than `2 ^ 64` octets. -/
def Turn.Bounded (turn : Turn) : Prop :=
  ∀ registration enclave, registrationOf turn.request = .ok registration →
    turn.enclave = some enclave → (Update.register registration.certificate enclave).Fits

/-- The stores of a gateway: the one that it starts on, and those that operations of its keeper and
requests make of it, all payloads being shorter than `2 ^ 64` octets. -/
inductive Reachable (keeper : Keeper) : MemoryStore → Prop
  | empty : Reachable keeper .empty
  | started {text : Bytes} {loaded : Loaded} (start : keeper.start text = .ok loaded)
      (fits : (Update.loadGenesis loaded.document.state).Fits) : Reachable keeper loaded.store
  | operated {store : MemoryStore} {operation : Operation} (before : Reachable keeper store)
      (fits : operation.Fits) (trace : List Event) :
    Reachable keeper (operation.perform keeper ⟨store, trace⟩).2.store
  | answered {store : MemoryStore} {turn : Turn} (before : Reachable keeper store)
      (bounded : turn.Bounded) : Reachable keeper (turn.round keeper store).after

variable {keeper : Keeper} {registry : Registry} {store : MemoryStore}

theorem Reachable.run {operations : List Operation} (h : Reachable keeper store)
    (hfits : ∀ operation ∈ operations, operation.Fits) (trace : List Event) :
    Reachable keeper (keeper.run operations ⟨store, trace⟩).2.store := by
  induction operations generalizing store trace with
  | nil => exact h
  | cons operation rest ih =>
    have hnext := h.operated (hfits operation List.mem_cons_self) trace
    exact ih hnext (fun other hother => hfits other (List.mem_cons_of_mem operation hother)) _

end EnclaveRegistry.Gateway
