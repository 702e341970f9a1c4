import EnclaveRegistry.Tool.Command

/-! # Command lines

A command line names a command and then its options, each at most once. An option that takes a
value is followed by it or joined to it by an equals sign; a separate value does not start with a
hyphen, unless it is one. The first argument that does not fit decides.
-/
namespace EnclaveRegistry.Tool

inductive Invocation where
  | run (command : Command)
  | help
  | version
  | misuse
  deriving DecidableEq, Inhabited

/-- What an option takes: nothing, a text, or the path of a file, which is not empty. -/
inductive Operand where
  | none
  | text
  | path
  deriving DecidableEq, Inhabited

structure CommandOption where
  name : String
  operand : Operand
  deriving DecidableEq, Inhabited

abbrev Given := List (String × String)

def looksLikeOption (text : String) : Bool :=
  match text.toList with
  | '-' :: _ :: _ => true
  | _ => false

def Operand.admits (operand : Operand) (value : String) : Bool :=
  match operand with
  | none => false
  | text => true
  | path => !value.isEmpty

def splitLong (text : String) : String × Option String :=
  let chars := text.toList
  let name := String.ofList (chars.takeWhile (· != '='))
  match chars.dropWhile (· != '=') with
  | [] => (name, none)
  | _ :: value => (name, some (String.ofList value))

/-- Reads the options behind a command. `given` holds those before. -/
def readOptions (options : List CommandOption) (given : Given) :
    List String → Except Invocation Given
  | [] => .ok given
  | ["--"] => .ok given
  | argument :: rest =>
    let (name, joined) := splitLong argument
    match argument.toList, options.find? fun option => "--" ++ option.name = name with
    | '-' :: 'h' :: _, _ => .error .help
    | _, none => .error (if argument = "--help" then .help else .misuse)
    | _, some option =>
      if (given.lookup option.name).isSome then .error .misuse
      else
        match option.operand, joined, rest with
        | .none, none, rest => readOptions options ((option.name, "") :: given) rest
        | operand, some value, rest =>
          if operand.admits value then readOptions options ((option.name, value) :: given) rest
          else .error .misuse
        | operand, none, value :: rest =>
          if operand.admits value && !looksLikeOption value then
            readOptions options ((option.name, value) :: given) rest
          else .error .misuse
        | _, none, [] => .error .misuse

/-- A command's name and options, and the command that given options make. -/
structure CommandForm where
  name : String
  options : List CommandOption
  make : Given → Option Command

def commandForms : List CommandForm :=
  [⟨"migrate", [⟨"input", .path⟩, ⟨"output", .path⟩], fun given => do
      return .migrate (← given.lookup "input") (← given.lookup "output")⟩,
    ⟨"inspect", [⟨"genesis", .path⟩, ⟨"mock", .none⟩], fun given => do
      return .inspect (← given.lookup "genesis") (given.lookup "mock").isSome⟩,
    ⟨"verify-cert", [⟨"file", .path⟩, ⟨"mock", .none⟩], fun given => do
      return .verifyCertificate (← given.lookup "file") (given.lookup "mock").isSome⟩,
    ⟨"fetch-bootstrap", [⟨"gateway", .text⟩, ⟨"node-id", .text⟩, ⟨"output", .path⟩], fun given => do
      return .fetchBootstrap (← given.lookup "gateway") (← given.lookup "node-id")
        (given.lookup "output")⟩]

def commandForm? (name : String) : Option CommandForm :=
  commandForms.find? fun form => form.name = name

def CommandForm.read (form : CommandForm) (arguments : List String) : Invocation :=
  match readOptions form.options [] arguments with
  | .error invocation => invocation
  | .ok given =>
    match form.make given with
    | some command => .run command
    | none => .misuse

def readTopic : List String → Invocation
  | [] => .help
  | [name] => if name = "help" || (commandForm? name).isSome then .help else .misuse
  | _ => .misuse

/-- Reads a command line without the program's own name. -/
def Invocation.read : List String → Invocation
  | [] => .misuse
  | name :: arguments =>
    match name.toList with
    | '-' :: 'h' :: _ => .help
    | '-' :: 'V' :: _ => .version
    | _ =>
      if name = "--help" then .help
      else if name = "--version" then .version
      else if name = "help" then readTopic arguments
      else
        match commandForm? name with
        | some form => form.read arguments
        | none => .misuse

structure Ending where
  code : Nat
  output : String
  errors : String
  deriving DecidableEq, Inhabited

def usage : String :=
  "Usage: keyreg-cli <COMMAND>\n\nCommands:\n" ++
    String.join (commandForms.map fun form => "  " ++ form.name ++ "\n")

def Invocation.perform : Invocation → Program Ending
  | run command => do
    match ← command.perform.run with
    | .ok output => return ⟨0, output, ""⟩
    | .error error => return ⟨1, "", error.report⟩
  | help => return ⟨0, usage, ""⟩
  | version => return ⟨0, "keyreg-cli 0.1.0\n", ""⟩
  | misuse => return ⟨2, "", usage⟩

end EnclaveRegistry.Tool
