import EnclaveRegistry.Tool.Arguments

/-! # The operator's tool

The tool runs on the files of the operating system. No network is attached to it, so a gateway
cannot be reached.
-/
namespace EnclaveRegistry.Tool

def fileErrorOf : IO.Error → FileError
  | .noFileOrDirectory _ _ _ => .missing
  | .noSuchThing _ _ _ => .missing
  | .permissionDenied _ _ _ => .denied
  | .inappropriateType _ code _ => if code = 20 then .notDirectory else .isDirectory
  | error => .other (toString error)

def arrayOf (bytes : Bytes) : ByteArray := ⟨bytes.toArray⟩

/-- The operating system as surroundings of a program. -/
def operatingSystem : Program.Surroundings IO where
  read path := do
    try return .ok (← IO.FS.readBinFile path).toList
    catch error => return .error (fileErrorOf error)
  write path content := do
    try
      IO.FS.writeBinFile path (arrayOf content)
      return .ok ()
    catch error => return .error (fileErrorOf error)
  fetch address := return .error ⟨address⟩

end EnclaveRegistry.Tool

open EnclaveRegistry EnclaveRegistry.Tool in
def main (arguments : List String) : IO UInt32 := do
  let ending ← Program.run operatingSystem (Invocation.read arguments).perform
  (← IO.getStdout).putStr ending.output
  (← IO.getStderr).putStr ending.errors
  return UInt32.ofNat ending.code
