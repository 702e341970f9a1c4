import EnclaveRegistry.Http.Message
import EnclaveRegistry.Http.Target

/-! # Endpoints

What a gateway can be asked. The last part of some paths names a master key or a node; it is kept
as it was sent.
-/
namespace EnclaveRegistry.Gateway

inductive Endpoint where
  | masterKey (raw : Bytes)
  | registration (raw : Bytes)
  | authenticated (raw : Bytes)
  | registrations
  | bootstrap (raw : Bytes)
  | genesis
  | register
  deriving DecidableEq, Inhabited

def basePath : List Bytes := [[], Bytes.ascii "registration", Bytes.ascii "v1beta1"]

namespace Endpoint

/-- The endpoint of the parts of a path behind the base. -/
def ofParts? : List Bytes → Option Endpoint
  | [name] =>
    if name = Bytes.ascii "registrations" then some registrations
    else if name = Bytes.ascii "genesis" then some genesis
    else if name = Bytes.ascii "register" then some register
    else none
  | [name, raw] =>
    if raw = [] then none
    else if name = Bytes.ascii "master-key" then some (masterKey raw)
    else if name = Bytes.ascii "registration" then some (registration raw)
    else if name = Bytes.ascii "authenticated" then some (authenticated raw)
    else if name = Bytes.ascii "bootstrap" then some (bootstrap raw)
    else none
  | _ => none

def ofPath? (path : Bytes) : Option Endpoint :=
  let parts := Http.split 47 path
  if parts.take basePath.length = basePath then ofParts? (parts.drop basePath.length) else none

def methods : Endpoint → List String
  | register => ["POST"]
  | _ => ["GET", "HEAD"]

end Endpoint
end EnclaveRegistry.Gateway
