import EnclaveRegistry.Attestation.Verifier
import EnclaveRegistry.Tool.Error
import EnclaveRegistry.Tool.Report

/-! # Commands

Each command is a program that reads files, fetches from a gateway and writes files. It ends with
what is to be printed.
-/
namespace EnclaveRegistry.Tool

inductive Command where
  | migrate (input output : String)
  | inspect (genesis : String) (mock : Bool)
  | verifyCertificate (file : String) (mock : Bool)
  | fetchBootstrap (gateway nodeId : String) (output : Option String)
  deriving DecidableEq, Inhabited

def accept {ε α : Type} (refuse : ε → ToolError) : Except ε α → Task ToolError α
  | .ok a => return a
  | .error error => throw (refuse error)

/-- Carries a document over to the current schema; ends with the number of its records. -/
def migrate (input output : String) : Task ToolError Nat := do
  let text ← readFile input (.inputUnreadable input)
  let document ← accept .document (Genesis.migrate text)
  writeFile output (Schema.toPrettyJson document) (.outputUnwritable output)
  return document.state.records.length

def verifierOf (mock : Bool) : Except AttestationError Verifier :=
  Verifier.named (if mock then Platform.mock.name else Platform.nitro.name)

def bootstrapAddress (gateway : String) (id : NodeId) : String :=
  let base := (gateway.toList.reverse.dropWhile (· == '/')).reverse
  String.ofList base ++ "/registration/v1beta1/bootstrap/" ++ id.toHex

def materialOf (reply : Reply) : Except ToolError BootstrapMaterial :=
  if Http.isSuccess reply.status then
    match Schema.ofJson BootstrapMaterial reply.body with
    | .ok material => .ok material
    | .error _ => .error .badReply
  else .error (.refused reply.status (Utf8.decodeLossy reply.body))

/-- Fetches a node's bootstrap material from a gateway. Nothing is sent for a text that is no
identifier. -/
def fetchBootstrap (gateway nodeId : String) : Task ToolError BootstrapMaterial := do
  let node ← accept .badNodeId (NodeId.parse nodeId)
  let reply ← ExceptT.lift (Program.fetch (bootstrapAddress gateway node) Program.done)
  accept id (materialOf (← accept .unreachable reply))

def deliver (material : BootstrapMaterial) : Option String → Task ToolError String
  | some path => do
    writeFile path (Schema.toPrettyJson material) .file
    return ""
  | none => return Utf8.decodeLossy (Schema.toPrettyJson material) ++ "\n"

def Command.perform : Command → Task ToolError String
  | migrate input output => do
    let count ← Tool.migrate input output
    return s!"{Decimal.text count}件の登録レコードを {output} に書き出しました\n"
  | inspect genesis mock => do
    let text ← readFile genesis .file
    let verifier ← accept .certificate (verifierOf mock)
    accept .start (Tool.inspect verifier text)
  | verifyCertificate file mock => do
    let certificate ← readFile file .file
    let verifier ← accept .certificate (verifierOf mock)
    let identity ← accept .certificate (verifier.verify certificate)
    return identity.nodeId.toHex ++ "\n"
  | fetchBootstrap gateway nodeId output => do
    deliver (← Tool.fetchBootstrap gateway nodeId) output

end EnclaveRegistry.Tool
