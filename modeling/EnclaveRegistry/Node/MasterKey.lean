import EnclaveRegistry.Schema.Shape

/-! # Master keys

The network shares two public master keys, one for each type. A policy says whether a key that is
set may be replaced.
-/
namespace EnclaveRegistry

open Schema (Described)

structure MasterKey where
  octets : Bytes
  deriving DecidableEq, Inhabited

instance : Described MasterKey where
  shape := .record "MasterKey" false (.cons "bytes" (.bytes .base64) .nil)
  view key := (key.octets, ())
  build values := ⟨values.1⟩
  build_view _ := rfl
  view_build _ := rfl

/-- What a master key is for: channels between nodes, or the inputs and outputs of contracts. -/
inductive MasterKeyType where
  | nodeExchange
  | io
  deriving DecidableEq, Inhabited

namespace MasterKeyType

/-- Both types, in the order in which they are reported. -/
def all : List MasterKeyType := [nodeExchange, io]

def tag : MasterKeyType → String
  | nodeExchange => "node_exch"
  | io => "io"

/-- Reads the name of a type; the first one may also be written with a hyphen. -/
def parse? (name : String) : Option MasterKeyType :=
  if name = "node_exch" ∨ name = "node-exch" then some nodeExchange
  else if name = "io" then some io
  else none

def unknownMessage (name : String) : String := s!"未知のマスター鍵種別: {name}"

instance : Described MasterKeyType where
  shape := .choice ["node_exch", "io"]
  view
    | nodeExchange => (0 : Fin 2)
    | io => (1 : Fin 2)
  build (choice : Fin 2) := if choice = 0 then nodeExchange else io
  build_view a := by cases a <;> rfl
  view_build := by
    intro (c : Fin 2)
    match c with
    | 0 => rfl
    | 1 => rfl

end MasterKeyType

inductive MasterKeyPolicy where
  | overwrite
  | setOnce
  deriving DecidableEq, Inhabited

namespace MasterKeyPolicy

def parse? (name : String) : Option MasterKeyPolicy :=
  if name = "overwrite" then some overwrite
  else if name = "set-once" ∨ name = "set_once" then some setOnce
  else none

def unknownMessage (name : String) : String := s!"未知のマスター鍵ポリシー: {name}"

end MasterKeyPolicy
end EnclaveRegistry
