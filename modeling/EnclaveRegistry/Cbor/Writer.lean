import EnclaveRegistry.Cbor.Item
import EnclaveRegistry.Text.Utf8

/-! # Writing CBOR

An item is written with arguments as short as they can be, and with strings, arrays and maps of
stated length.
-/
namespace EnclaveRegistry.Cbor

/-- The head of an item with an argument below `2 ^ 64`. -/
def writeHead (major argument : Nat) : Bytes :=
  let head (minor width : Nat) := UInt8.ofNat (32 * major + minor) :: Bytes.ofNatBE width argument
  if argument < 24 then head argument 0
  else if argument < UInt8.size then head 24 1
  else if argument < UInt16.size then head 25 2
  else if argument < UInt32.size then head 26 4
  else head 27 8

def writeFloat (octets : Bytes) : Bytes :=
  (match octets.length with
    | 2 => 249
    | 4 => 250
    | _ => 251) :: octets

mutual

def Item.write : Item → Bytes
  | .unsigned value => writeHead 0 value
  | .negative value => writeHead 1 value
  | .bytes content _ => writeHead 2 content.length ++ content
  | .text content _ =>
    let octets := Utf8.encode content
    writeHead 3 octets.length ++ octets
  | .array items => writeHead 4 items.length ++ writeItems items
  | .map entries => writeHead 5 entries.length ++ writeEntries entries
  | .tagged tag item => writeHead 6 tag ++ Item.write item
  | .simple value => writeHead 7 value
  | .float octets => writeFloat octets

def writeItems : List Item → Bytes
  | [] => []
  | item :: rest => Item.write item ++ writeItems rest

def writeEntries : List (Item × Item) → Bytes
  | [] => []
  | (key, value) :: rest => Item.write key ++ Item.write value ++ writeEntries rest

end

end EnclaveRegistry.Cbor
