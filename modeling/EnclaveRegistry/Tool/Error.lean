import EnclaveRegistry.Keeper.Start
import EnclaveRegistry.Http.Message
import EnclaveRegistry.Program

/-! # Why a command fails

A failure is told by what was being done and, behind it, by what that failed of.
-/
namespace EnclaveRegistry.Tool

inductive ToolError where
  | inputUnreadable (path : String) (error : FileError)
  | outputUnwritable (path : String) (error : FileError)
  | file (error : FileError)
  | document (error : Genesis.MigrationError)
  | start (error : StartError)
  | certificate (error : AttestationError)
  | badNodeId (error : Hex.Error)
  | unreachable (error : Unreachable)
  | refused (status : Nat) (body : String)
  | badReply
  deriving Inhabited

namespace ToolError

/-- What was being done. -/
def message : ToolError → String
  | inputUnreadable path _ => "入力を読み込めません: " ++ path
  | outputUnwritable path _ => "出力を書き込めません: " ++ path
  | file error => error.message
  | document error => error.message
  | start error => error.message
  | certificate error => error.message
  | badNodeId _ => "node_idは16進数である必要があります"
  | unreachable error => s!"error sending request for url ({error.address})"
  | refused status body => s!"Gatewayがエラーを返しました ({Http.statusLine status}): {body}"
  | badReply => "error decoding response body"

/-- What it failed of, where that is told apart. -/
def cause? : ToolError → Option String
  | inputUnreadable _ error => some error.message
  | outputUnwritable _ error => some error.message
  | badNodeId error => some error.message
  | _ => none

def fullMessage (error : ToolError) : String :=
  match error.cause? with
  | some cause => error.message ++ ": " ++ cause
  | none => error.message

def report (error : ToolError) : String :=
  "Error: " ++ error.message ++
    (match error.cause? with
      | some cause => "\n\nCaused by:\n    " ++ cause
      | none => "") ++ "\n"

end ToolError
end EnclaveRegistry.Tool
