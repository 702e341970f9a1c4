import EnclaveRegistry.Gateway.Endpoint
import EnclaveRegistry.Gateway.Error
import EnclaveRegistry.Http.MediaType
import EnclaveRegistry.Keeper.Genesis
import EnclaveRegistry.Store.Memory

/-! # Answering requests

Queries only read the store. A registration is one transaction of the keeper, and requests are
answered one after the other.
-/
namespace EnclaveRegistry.Gateway

open Http (Request Response)

/-- The work on a request: it ends with a response or a refusal. -/
abbrev Handler := ExceptT Refusal (StateM (Session MemoryStore)) Response

abbrev Outcome := Except Refusal Response

def ofKeeper {α : Type} : Except KeeperError α → Except Refusal α
  | .ok a => .ok a
  | .error error => .error (.keeper error)

def parameterText (name : String) (raw : Bytes) : Except Refusal String :=
  match Utf8.decode? (Http.unescape raw) with
  | some text => .ok text
  | none => .error (.parameterNotText name)

def nodeIdOf (raw : Bytes) : Except Refusal NodeId := do
  match NodeId.parse (← parameterText "node_id" raw) with
  | .ok id => return id
  | .error error => .error (.badNodeId error)

def keyTypeOf (raw : Bytes) : Except Refusal MasterKeyType := do
  let name ← parameterText "key_type" raw
  match MasterKeyType.parse? name with
  | some type => return type
  | none => .error (.badKeyType name)

/-- Reads digits behind `value`, which stays below `2 ^ 64`. -/
def readDigits (value : Nat) : Bytes → Except QueryFault Nat
  | [] => .ok value
  | d :: rest =>
    let next := value * 10 + Decimal.digitValue d
    if !Decimal.isDigit d then .error .badDigit
    else if UInt64.size ≤ next then .error .tooLarge
    else readDigits next rest

def readLimit : Bytes → Except QueryFault Nat
  | [] => .error .emptyNumber
  | [43] => .error .badDigit
  | 43 :: digits => readDigits 0 digits
  | digits => readDigits 0 digits

/-- The limit among the parameters of a query; other names are ignored. -/
def limitOf (limit : Option Nat) : List (Bytes × Bytes) → Except QueryFault (Option Nat)
  | [] => .ok limit
  | (name, value) :: rest =>
    if name = Bytes.ascii "limit" then
      if limit.isSome then .error .duplicate
      else do limitOf (some (← readLimit value)) rest
    else limitOf limit rest

def answerMasterKey (store : MemoryStore) (raw : Bytes) : Outcome := do
  let type ← keyTypeOf raw
  match ← ofKeeper (Query.masterKey store type) with
  | some key => return .json key
  | none => .error (.keeper (.keyNotFound type))

def answerRegistration (store : MemoryStore) (raw : Bytes) : Outcome := do
  let id ← nodeIdOf raw
  match ← ofKeeper (Query.nodeRecord store id) with
  | some record => return .json record
  | none => .error (.unknownNode id)

def answerAuthenticated (store : MemoryStore) (raw : Bytes) : Outcome := do
  let id ← nodeIdOf raw
  return .json (AuthenticationStatus.mk id (← ofKeeper (Query.isAuthenticated store id)))

def answerRegistrations (store : MemoryStore) (query : Bytes) : Outcome := do
  match limitOf none (Http.parameters query) with
  | .error fault => .error (.badQuery fault)
  | .ok limit =>
    return .json (RegistrationList.mk (← ofKeeper (Query.entriesUpTo store limit)))

def answerGenesis (store : MemoryStore) : Outcome := do
  return .json (Genesis.Document.current (← ofKeeper (Query.state store)))

def materialOf (store : MemoryStore) (raw : Bytes) :
    Except Refusal (NodeId × BootstrapMaterial) := do
  let id ← nodeIdOf raw
  return (id, ← ofKeeper (Query.bootstrapMaterial store id))

def serveBootstrap (raw : Bytes) : Handler := do
  let (id, material) ← ofExcept (materialOf (← get).store raw)
  modify fun session => ⟨session.store, session.trace ++ [.noticed (.materialServed id)]⟩
  return .json material

def registrationOf (request : Request) : Except Refusal RegisterRequest :=
  if !(request.contentType.bind Http.MediaType.read).any Http.MediaType.isJson then
    .error .notJson
  else
    match Schema.ofJson RegisterRequest request.body with
    | .ok registration => .ok registration
    | .error failure => .error (.badBody failure)

def serveRegister (keeper : Keeper) (enclave : Option Enclave) (request : Request) : Handler := do
  let registration ← ofExcept (registrationOf request)
  match enclave with
  | none => throw .noEnclave
  | some enclave =>
    let transaction : Transaction MemoryStore (NodeId × EncryptedSeed) :=
      keeper.register registration.certificate enclave
    let (id, seed) ← ExceptT.adapt Refusal.keeper transaction
    return .json (RegisterResponse.mk id seed)

def Endpoint.serve (endpoint : Endpoint) (keeper : Keeper) (enclave : Option Enclave)
    (request : Request) : Handler := do
  let store := (← get).store
  match endpoint with
  | masterKey raw => ofExcept (answerMasterKey store raw)
  | registration raw => ofExcept (answerRegistration store raw)
  | authenticated raw => ofExcept (answerAuthenticated store raw)
  | registrations => ofExcept (answerRegistrations store (Http.query request.target))
  | bootstrap raw => serveBootstrap raw
  | genesis => ofExcept (answerGenesis store)
  | register => serveRegister keeper enclave request

def route (keeper : Keeper) (enclave : Option Enclave) (request : Request) : Handler :=
  match Endpoint.ofPath? (Http.path request.target) with
  | none => throw .noSuchPath
  | some endpoint =>
    if request.method ∈ endpoint.methods then endpoint.serve keeper enclave request
    else throw (.methodNotAllowed endpoint.methods)

/-- The response to a request. The answer to a request for headers alone has no body. -/
def serve (keeper : Keeper) (enclave : Option Enclave) (request : Request) :
    StateM (Session MemoryStore) Response := do
  let response := match ← (route keeper enclave request).run with
    | .ok response => response
    | .error refusal => refusal.response
  return if request.method = "HEAD" then response.withoutBody else response

end EnclaveRegistry.Gateway
