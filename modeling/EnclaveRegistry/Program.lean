import EnclaveRegistry.Bytes

/-! # Programs that read, write and fetch

A program is a tree of the things that it asks of its surroundings. It is run by whoever can answer:
the operating system, or a few files in memory.
-/
namespace EnclaveRegistry

inductive FileError where
  | missing
  | denied
  | notDirectory
  | isDirectory
  | other (text : String)
  deriving DecidableEq, Inhabited

def FileError.message : FileError → String
  | missing => "No such file or directory (os error 2)"
  | denied => "Permission denied (os error 13)"
  | notDirectory => "Not a directory (os error 20)"
  | isDirectory => "Is a directory (os error 21)"
  | other text => text

/-- What a server answers to a request for an address: a status and a body. -/
structure Reply where
  status : Nat
  body : Bytes
  deriving DecidableEq, Inhabited

structure Unreachable where
  address : String
  deriving DecidableEq, Inhabited

/-- Something that ends in an `α` and may ask for files and addresses on the way. -/
inductive Program (α : Type) where
  | done (result : α)
  | read (path : String) (next : Except FileError Bytes → Program α)
  | write (path : String) (content : Bytes) (next : Except FileError Unit → Program α)
  | fetch (address : String) (next : Except Unreachable Reply → Program α)

namespace Program

def bind {α β : Type} : Program α → (α → Program β) → Program β
  | done result, f => f result
  | read path next, f => read path fun answer => (next answer).bind f
  | write path content next, f => write path content fun answer => (next answer).bind f
  | fetch address next, f => fetch address fun answer => (next answer).bind f

instance : Monad Program where
  pure := done
  bind := bind

/-- Answers to what a program asks, in a monad. -/
structure Surroundings (m : Type → Type) where
  read : String → m (Except FileError Bytes)
  write : String → Bytes → m (Except FileError Unit)
  fetch : String → m (Except Unreachable Reply)

def run {m : Type → Type} [Monad m] {α : Type} (surroundings : Surroundings m) :
    Program α → m α
  | done result => pure result
  | read path next => do run surroundings (next (← surroundings.read path))
  | write path content next => do run surroundings (next (← surroundings.write path content))
  | fetch address next => do run surroundings (next (← surroundings.fetch address))

end Program

abbrev Task (ε α : Type) := ExceptT ε Program α

def readFile {ε : Type} (path : String) (refuse : FileError → ε) : Task ε Bytes := do
  match ← ExceptT.lift (Program.read path Program.done) with
  | .ok content => return content
  | .error error => throw (refuse error)

def writeFile {ε : Type} (path : String) (content : Bytes) (refuse : FileError → ε) :
    Task ε Unit := do
  match ← ExceptT.lift (Program.write path content Program.done) with
  | .ok _ => return ()
  | .error error => throw (refuse error)

end EnclaveRegistry
