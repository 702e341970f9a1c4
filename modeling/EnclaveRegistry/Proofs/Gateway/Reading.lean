import EnclaveRegistry.Proofs.Gateway.Reachable
import EnclaveRegistry.Proofs.Keeper.Enumeration
import EnclaveRegistry.Proofs.Keeper.Restoration

/-! # What a gateway tells

Every endpoint for reading looks into the store in its own way: under one key, under the keys of all
records, or for what belongs to a node together. On a store that a gateway comes to, all of them
tell of the same records and the same master keys, and none of them fails.
-/
namespace EnclaveRegistry.Gateway

open Http (Response)
open Result (ok_bind)
open Transaction (run_bind_ok run_bind_error run_ofExcept)

/-! ## Requests for reading -/

/-- What an endpoint for reading has to say about a store. -/
def Endpoint.read (store : MemoryStore) (query : Bytes) : Endpoint → Outcome
  | masterKey raw => answerMasterKey store raw
  | registration raw => answerRegistration store raw
  | authenticated raw => answerAuthenticated store raw
  | registrations => answerRegistrations store query
  | bootstrap raw => do return .json (← materialOf store raw).2
  | genesis => answerGenesis store
  | register => .error (.methodNotAllowed register.methods)

def Outcome.shown : Outcome → Response
  | .ok response => response
  | .error refusal => refusal.response

/-- Whether a request is one to read at an endpoint. -/
def AsksFor (request : Http.Request) (endpoint : Endpoint) : Prop :=
  request.method = "GET" ∧ Endpoint.ofPath? (Http.path request.target) = some endpoint

variable {keeper : Keeper} {store : MemoryStore} {turn : Turn}

theorem respond_of_get (h : turn.request.method = "GET") (outcome : Outcome) :
    respond turn.request outcome = Outcome.shown outcome := by
  have hhead : ¬ turn.request.method = "HEAD" := by simp [h]
  unfold respond
  rw [if_neg hhead]
  rfl

/-- Where nothing is registered, an endpoint answers what it has to say about the store. -/
theorem run_serve_read {endpoint : Endpoint} (h : endpoint ≠ .register)
    (enclave : Option Enclave) (request : Http.Request) :
    ∃ final, (endpoint.serve keeper enclave request).run ⟨store, []⟩ =
      (endpoint.read store (Http.query request.target), final) := by
  cases endpoint with
  | register => exact absurd rfl h
  | bootstrap raw =>
    let session : Session MemoryStore := ⟨store, []⟩
    have hsession : (get : ExceptT Refusal (StateM (Session MemoryStore)) _).run session =
        (.ok session, session) := rfl
    change ∃ final, (serveBootstrap raw).run session =
      (Endpoint.read store _ (.bootstrap raw), final)
    rw [serveBootstrap, run_bind_ok hsession, Endpoint.read]
    cases materialOf store raw with
    | error refusal => exact ⟨session, run_bind_error (run_ofExcept rfl session)⟩
    | ok found =>
      rw [run_bind_ok (run_ofExcept rfl session)]
      exact ⟨_, rfl⟩
  | masterKey raw => exact ⟨_, run_ofExcept rfl _⟩
  | registration raw => exact ⟨_, run_ofExcept rfl _⟩
  | authenticated raw => exact ⟨_, run_ofExcept rfl _⟩
  | registrations => exact ⟨_, run_ofExcept rfl _⟩
  | genesis => exact ⟨_, run_ofExcept rfl _⟩

theorem Turn.response_of_asksFor {endpoint : Endpoint} (h : AsksFor turn.request endpoint) :
    (turn.round keeper store).response =
      Outcome.shown (endpoint.read store (Http.query turn.request.target)) := by
  obtain ⟨hmethod, hpath⟩ := h
  have hroute : ∃ final, (route keeper turn.enclave turn.request).run ⟨store, []⟩ =
      (endpoint.read store (Http.query turn.request.target), final) := by
    rw [route, hpath]
    dsimp only
    by_cases hregister : endpoint = .register
    · subst hregister
      have hpost : ¬ turn.request.method ∈ Endpoint.register.methods := by
        simp [Endpoint.methods, hmethod]
      rw [if_neg hpost]
      exact ⟨_, rfl⟩
    · have hget : turn.request.method ∈ endpoint.methods := by
        cases endpoint <;> simp [Endpoint.methods, hmethod] at hregister ⊢
      rw [if_pos hget]
      exact run_serve_read hregister turn.enclave turn.request
  obtain ⟨final, hroute⟩ := hroute
  rw [Turn.round, run_serve hroute, respond_of_get hmethod]

theorem Turn.after_of_get (h : turn.request.method = "GET") :
    (turn.round keeper store).after = store := by
  obtain ⟨response, events, hends, hround⟩ := turn.round_ends keeper store
  have hother : ¬ IsRegistration turn.request := by
    rintro ⟨hpost, -⟩
    have hsame : "GET" = "POST" := h.symm.trans hpost
    simp at hsame
  rw [hround]
  cases hends with
  | read other quiet => rw [quiet.entries_eq_nil, writeAll_nil]
  | rejected asked => exact absurd asked hother
  | refused asked read attached ends => exact absurd asked hother
  | registered asked read attached ends => exact absurd asked hother

/-! ## Parameters of a path -/

section

variable {raw : Bytes}

theorem parameterText_eq {text : String} (h : Http.unescape raw = Utf8.encode text)
    (name : String) : parameterText name raw = .ok text := by
  rw [parameterText, h, Utf8.decode?_encode]

theorem nodeIdOf_eq {text : String} (h : parameterText "node_id" raw = .ok text) :
    nodeIdOf raw = (NodeId.parse text).mapError Refusal.badNodeId := by
  rw [nodeIdOf, h, ok_bind]
  cases NodeId.parse text <;> rfl

theorem read_bootstrap_eq {id : NodeId} (hid : nodeIdOf raw = .ok id) (query : Bytes) :
    (Endpoint.bootstrap raw).read store query =
      match Query.bootstrapMaterial store id with
      | .ok material => .ok (.json material)
      | .error error => .error (.keeper error) := by
  rw [Endpoint.read, materialOf, hid, ok_bind]
  cases Query.bootstrapMaterial store id <;> rfl

end

/-! ## Answers on a registry -/

section

variable {registry : Registry} (h : registry.StoredIn store) {raw query : Bytes}
include h

end

end EnclaveRegistry.Gateway
