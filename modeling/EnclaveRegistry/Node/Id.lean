import EnclaveRegistry.Schema.Shape
import EnclaveRegistry.Text.Utf8

/-! # Node identifiers

A node is known by the public key that its certificate proves. Identifiers are compared as byte
strings and shown as lowercase hexadecimal text.
-/
namespace EnclaveRegistry

open Schema (Described)

/-- The public key by which a node is known. -/
structure NodeId where
  octets : Bytes
  deriving DecidableEq, Inhabited

namespace NodeId

instance : LT NodeId := ⟨fun a b => a.octets < b.octets⟩

instance (a b : NodeId) : Decidable (a < b) := inferInstanceAs (Decidable (a.octets < b.octets))

def toHex (id : NodeId) : String := Hex.encode id.octets

/-- Reads the hexadecimal text of an identifier, which may start with `0x`. -/
def parse (text : String) : Except Hex.Error NodeId :=
  match Hex.parse (Utf8.encode text) with
  | .ok octets => .ok ⟨octets⟩
  | .error error => .error error

def sorted (ids : List NodeId) : List NodeId := ids.mergeSort fun a b => !decide (b < a)

instance : Described NodeId where
  shape := .bytes .hex
  view id := id.octets
  build octets := ⟨octets⟩
  build_view _ := rfl
  view_build _ := rfl

end NodeId
end EnclaveRegistry
