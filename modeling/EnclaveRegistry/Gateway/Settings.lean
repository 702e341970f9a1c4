import EnclaveRegistry.Attestation.Verifier
import EnclaveRegistry.Keeper.Query
import EnclaveRegistry.Keeper.Start
import EnclaveRegistry.Program

/-! # Settings of a gateway

A gateway takes its settings from named texts in its environment. It starts with the state of a
genesis document, if the settings name one. The log of a start is not kept, but the records are
counted for it, and a count that fails ends the start.
-/
namespace EnclaveRegistry.Gateway

structure Settings where
  listenAddress : String
  genesisPath : Option String
  mockMode : Bool
  policy : MasterKeyPolicy
  rootPath : Option String
  deriving DecidableEq, Inhabited

inductive SetupError where
  | unknownPolicy (name : String)
  | noRoot (path : String) (error : FileError)
  | noGenesis (path : String) (error : FileError)
  | badGenesis (error : StartError)
  deriving Inhabited

def SetupError.message : SetupError → String
  | unknownPolicy name => MasterKeyPolicy.unknownMessage name
  | noRoot path error => s!"Nitroルート証明書を読み込めません: {path}: {error.message}"
  | noGenesis path error => s!"ジェネシス文書を読み込めません: {path}: {error.message}"
  | badGenesis error => error.message

namespace Settings

/-- The policy that the environment names; keys may be overwritten if it names none. -/
def policyOf : Option String → Except SetupError MasterKeyPolicy
  | none => .ok .overwrite
  | some name =>
    match MasterKeyPolicy.parse? name with
    | some policy => .ok policy
    | none => .error (.unknownPolicy name)

def ofEnvironment (lookup : String → Option String) : Except SetupError Settings := do
  return ⟨(lookup "LISTEN_ADDR").getD "0.0.0.0:3000", lookup "GENESIS_PATH",
    lookup "MOCK_MODE" == some "true", ← policyOf (lookup "MASTER_KEY_POLICY"),
    lookup "NITRO_ROOT_CERT_PATH"⟩

def verifier (settings : Settings) : Task SetupError Verifier :=
  if settings.mockMode then return Mock.verifier
  else
    match settings.rootPath with
    | some path => do return Nitro.verifier (← readFile path (.noRoot path))
    | none => return Nitro.verifier Nitro.vendorRoot

/-- The enclave that the settings ask for. No other one is attached to a gateway. -/
def enclave? (settings : Settings) : Option Enclave :=
  if settings.mockMode then some .mock else none

/-- The keeper and the store that it starts with from a text, after a count of its records. -/
def startFrom (keeper : Keeper) (text : Bytes) : Except SetupError (Keeper × MemoryStore) :=
  match keeper.start text with
  | .error error => .error (.badGenesis error)
  | .ok loaded =>
    match Query.count loaded.store with
    | .error error => .error (.badGenesis (.state error))
    | .ok _ => .ok (keeper, loaded.store)

def start (settings : Settings) : Task SetupError (Keeper × MemoryStore) := do
  let keeper := ⟨← settings.verifier, settings.policy⟩
  match settings.genesisPath with
  | none => return (keeper, .empty)
  | some path =>
    let text ← readFile path (.noGenesis path)
    MonadExcept.ofExcept (startFrom keeper text)

end Settings
end EnclaveRegistry.Gateway
