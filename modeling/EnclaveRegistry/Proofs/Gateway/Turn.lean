import EnclaveRegistry.Gateway.Service
import EnclaveRegistry.Proofs.Keeper.Outcome

/-! # How requests are answered

A gateway answers one request after the other. Only a request to register a node reaches the
keeper's updates; all others leave nothing behind but notices.
-/
namespace EnclaveRegistry.Gateway

open Http (Request Response)

/-- A request, and the enclave that the gateway has when it answers. -/
structure Turn where
  enclave : Option Enclave
  request : Request
  deriving Inhabited

/-- A turn together with what it has led from and to. -/
structure Round where
  turn : Turn
  before : MemoryStore
  events : List Event
  response : Response
  after : MemoryStore
  deriving Inhabited

def Turn.round (keeper : Keeper) (turn : Turn) (store : MemoryStore) : Round :=
  let (response, session) := (serve keeper turn.enclave turn.request).run ⟨store, []⟩
  ⟨turn, store, session.trace, response, session.store⟩

def rounds (keeper : Keeper) : List Turn → MemoryStore → List Round
  | [], _ => []
  | turn :: rest, store =>
    turn.round keeper store :: rounds keeper rest (turn.round keeper store).after

def IsRegistration (request : Request) : Prop :=
  request.method = "POST" ∧ Endpoint.ofPath? (Http.path request.target) = some .register

/-- Whether events are nothing but notices. -/
def Quiet (events : List Event) : Prop := ∀ event ∈ events, ∃ notice, event = .noticed notice

/-- The ways in which a turn can end on a store, each with its response and its events. -/
inductive Turn.Ends (keeper : Keeper) (store : MemoryStore) (turn : Turn) :
    Response → List Event → Prop
  | read {response events} (other : ¬ IsRegistration turn.request)
      (quiet : Quiet events) : Ends keeper store turn response events
  | rejected {refusal : Refusal} (asked : IsRegistration turn.request) :
    Ends keeper store turn refusal.response []
  | refused {registration enclave error events} (asked : IsRegistration turn.request)
      (read : registrationOf turn.request = .ok registration)
      (attached : turn.enclave = some enclave)
      (ends : Update.Ends keeper store (.register registration.certificate enclave) (.error error)
        events) :
    Ends keeper store turn (Refusal.keeper error).response events
  | registered {registration enclave id seed events} (asked : IsRegistration turn.request)
      (read : registrationOf turn.request = .ok registration)
      (attached : turn.enclave = some enclave)
      (ends : Update.Ends keeper store (.register registration.certificate enclave)
        (.ok (.seed id seed)) events) :
    Ends keeper store turn (.json (RegisterResponse.mk id seed)) events

open Transaction (run_bind_ok run_bind_error run_map run_adapt run_ofExcept)

/-- Whether a handler leaves the store alone and gives nothing but notices. -/
def Handler.IsQuiet (handler : Handler) (session : Session MemoryStore) : Prop :=
  ∃ outcome events, Quiet events ∧ handler.run session = (outcome, session.after events)

theorem isQuiet_ofExcept (outcome : Outcome) (session : Session MemoryStore) :
    Handler.IsQuiet (ofExcept outcome) session := by
  refine ⟨outcome, [], nofun, ?_⟩
  rw [run_ofExcept rfl, Session.after_nil]

theorem isQuiet_serveBootstrap (raw : Bytes) (session : Session MemoryStore) :
    Handler.IsQuiet (serveBootstrap raw) session := by
  have hstore : (get : ExceptT Refusal (StateM (Session MemoryStore)) _).run session =
      (.ok session, session) := rfl
  cases hmaterial : materialOf session.store raw with
  | error refusal =>
    refine ⟨.error refusal, [], nofun, ?_⟩
    rw [serveBootstrap, run_bind_ok hstore, run_bind_error (run_ofExcept hmaterial session),
      Session.after_nil]
  | ok found =>
    obtain ⟨id, material⟩ := found
    refine ⟨.ok (.json material), [.noticed (.materialServed id)], ?_, ?_⟩
    · intro event hevent
      exact ⟨_, List.mem_singleton.1 hevent⟩
    · rw [serveBootstrap, run_bind_ok hstore, run_bind_ok (run_ofExcept hmaterial session)]
      rfl

theorem isQuiet_serve {endpoint : Endpoint} (h : endpoint ≠ .register) (keeper : Keeper)
    (enclave : Option Enclave) (request : Request) (session : Session MemoryStore) :
    Handler.IsQuiet (endpoint.serve keeper enclave request) session := by
  cases endpoint with
  | bootstrap raw => exact isQuiet_serveBootstrap raw session
  | register => exact absurd rfl h
  | masterKey raw => exact isQuiet_ofExcept (answerMasterKey session.store raw) session
  | registration raw => exact isQuiet_ofExcept (answerRegistration session.store raw) session
  | authenticated raw => exact isQuiet_ofExcept (answerAuthenticated session.store raw) session
  | registrations =>
    exact isQuiet_ofExcept (answerRegistrations session.store (Http.query request.target)) session
  | genesis => exact isQuiet_ofExcept (answerGenesis session.store) session

/-! ## Turns -/

def respond (request : Request) (outcome : Outcome) : Response :=
  let response := match outcome with
    | .ok response => response
    | .error refusal => refusal.response
  if request.method = "HEAD" then response.withoutBody else response

theorem IsRegistration.respond_ok {request : Request} (h : IsRegistration request)
    (response : Response) : respond request (.ok response) = response := by
  simp [respond, h.1]

theorem IsRegistration.respond_error {request : Request} (h : IsRegistration request)
    (refusal : Refusal) : respond request (.error refusal) = refusal.response := by
  simp [respond, h.1]

theorem run_serve {keeper : Keeper} {turn : Turn} {session final : Session MemoryStore}
    {outcome : Outcome}
    (h : (route keeper turn.enclave turn.request).run session = (outcome, final)) :
    (serve keeper turn.enclave turn.request).run session =
      (respond turn.request outcome, final) := by
  change (respond turn.request ((route keeper turn.enclave turn.request).run session).1,
    ((route keeper turn.enclave turn.request).run session).2) = _
  rw [h]

theorem run_serveRegister (keeper : Keeper) {turn : Turn} (asked : IsRegistration turn.request)
    (session : Session MemoryStore) :
    ∃ outcome events, turn.Ends keeper session.store (respond turn.request outcome) events ∧
      (serveRegister keeper turn.enclave turn.request).run session =
        (outcome, session.after events) := by
  cases hread : registrationOf turn.request with
  | error refusal =>
    refine ⟨.error refusal, [], ?_, ?_⟩
    · rw [asked.respond_error]
      exact .rejected asked
    · rw [serveRegister, run_bind_error (run_ofExcept hread session), Session.after_nil]
  | ok registration =>
    cases hattached : turn.enclave with
    | none =>
      refine ⟨.error .noEnclave, [], ?_, ?_⟩
      · rw [asked.respond_error]
        exact .rejected asked
      · rw [serveRegister, run_bind_ok (run_ofExcept hread session), Session.after_nil]
        rfl
    | some enclave =>
      obtain ⟨result, events, hends, hrun⟩ :=
        Update.run_perform keeper session (.register registration.certificate enclave)
      cases hregister : (keeper.register registration.certificate enclave :
          Transaction MemoryStore _).run session with
      | mk answer final =>
        rw [Update.perform, run_map hregister] at hrun
        obtain ⟨rfl, rfl⟩ := Prod.mk.inj hrun
        have hadapted := run_adapt Refusal.keeper hregister
        cases answer with
        | error error =>
          refine ⟨.error (.keeper error), events, ?_, ?_⟩
          · rw [asked.respond_error]
            exact .refused asked hread hattached hends
          · rw [serveRegister, run_bind_ok (run_ofExcept hread session)]
            exact run_bind_error hadapted
        | ok granted =>
          refine ⟨.ok (.json (RegisterResponse.mk granted.1 granted.2)), events, ?_, ?_⟩
          · rw [asked.respond_ok]
            exact .registered asked hread hattached hends
          · rw [serveRegister, run_bind_ok (run_ofExcept hread session)]
            exact run_bind_ok hadapted

theorem run_route (keeper : Keeper) (turn : Turn) (session : Session MemoryStore) :
    ∃ outcome events, turn.Ends keeper session.store (respond turn.request outcome) events ∧
      (route keeper turn.enclave turn.request).run session = (outcome, session.after events) := by
  by_cases asked : IsRegistration turn.request
  · obtain ⟨outcome, events, hends, hrun⟩ := run_serveRegister keeper asked session
    have hmethod : turn.request.method ∈ Endpoint.register.methods := by
      simp [Endpoint.methods, asked.1]
    refine ⟨outcome, events, hends, ?_⟩
    rw [← hrun, route, asked.2]
    dsimp only
    rw [if_pos hmethod]
    rfl
  · have hquiet : Handler.IsQuiet (route keeper turn.enclave turn.request) session := by
      rw [route]
      cases hendpoint : Endpoint.ofPath? (Http.path turn.request.target) with
      | none => exact isQuiet_ofExcept (.error .noSuchPath) session
      | some endpoint =>
        dsimp only
        split
        · rename_i hmethod
          have hother : endpoint ≠ .register := by
            rintro rfl
            exact asked ⟨List.mem_singleton.1 hmethod, hendpoint⟩
          exact isQuiet_serve hother keeper turn.enclave turn.request session
        · exact isQuiet_ofExcept (.error (.methodNotAllowed endpoint.methods)) session
    obtain ⟨outcome, events, hquiet, hrun⟩ := hquiet
    exact ⟨outcome, events, .read asked hquiet, hrun⟩

/-- Every turn ends in one of its ways, and its round tells what has happened. -/
theorem Turn.round_ends (keeper : Keeper) (turn : Turn) (store : MemoryStore) :
    ∃ response events, turn.Ends keeper store response events ∧
      turn.round keeper store =
        ⟨turn, store, events, response, writeAll store (Event.entries events)⟩ := by
  obtain ⟨outcome, events, hends, hrun⟩ := run_route keeper turn ⟨store, []⟩
  refine ⟨_, events, hends, ?_⟩
  rw [Turn.round, run_serve hrun]
  rfl

end EnclaveRegistry.Gateway
