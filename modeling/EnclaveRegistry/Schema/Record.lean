import EnclaveRegistry.Schema.Shape
import EnclaveRegistry.Text.Utf8

/-! # The binary form of described values

A value is stored without any tags of its type: integers least significant octet first, byte
strings and lists behind their length in eight octets, an optional value behind one octet, a choice
as its position in four octets, a record as its fields in order. Reading takes a value from the
front and leaves the rest.
-/
namespace EnclaveRegistry.Schema

/-- Why octets are not the binary form of a value: a number or a content that runs past the end,
a text that is no UTF-8, or a tag that no value has. -/
inductive RecordFault where
  | numberCut
  | contentCut
  | badText
  | badOption (tag : Nat)
  | badFlag (tag : Nat)
  | badChoice (index choices : Nat)
  deriving DecidableEq, Inhabited

def RecordFault.message : RecordFault → String
  | numberCut => "io error: unexpected end of file"
  | contentCut => "io error: "
  | badText => "string is not valid utf8"
  | badOption tag => s!"tag for enum is not valid, found {tag}"
  | badFlag tag => s!"invalid u8 while decoding bool, expected 0 or 1, found {tag}"
  | badChoice index choices =>
    s!"invalid value: integer `{index}`, expected variant index 0 <= i < {choices}"

def takeNat (width : Nat) (bytes : Bytes) : Except RecordFault (Nat × Bytes) :=
  if bytes.length < width then .error .numberCut
  else .ok (Bytes.toNatLE (bytes.take width), bytes.drop width)

def takeContent (length : Nat) (bytes : Bytes) : Except RecordFault (Bytes × Bytes) :=
  if bytes.length < length then .error .contentCut
  else .ok (bytes.take length, bytes.drop length)

/-- Takes a text behind its length; the length counts octets. -/
def takeText (bytes : Bytes) : Except RecordFault (String × Bytes) := do
  let (length, rest) ← takeNat 8 bytes
  let (content, rest) ← takeContent length rest
  match Utf8.decode? content with
  | some text => return (text, rest)
  | none => .error .badText

def takeAll {α : Type} (take : Bytes → Except RecordFault (α × Bytes)) :
    (count : Nat) → Bytes → Except RecordFault (List α × Bytes)
  | 0, bytes => .ok ([], bytes)
  | count + 1, bytes => do
    let (head, rest) ← take bytes
    let (tail, rest) ← takeAll take count rest
    return (head :: tail, rest)

def Width.pack : (width : Width) → width.Carrier → Bytes
  | .four, value => Bytes.ofNatLE 4 (UInt32.toNat value)
  | .eight, value => Bytes.ofNatLE 8 (UInt64.toNat value)

def Width.take : (width : Width) → Bytes → Except RecordFault (width.Carrier × Bytes)
  | .four, bytes => do
    let (value, rest) ← takeNat 4 bytes
    return (UInt32.ofNat value, rest)
  | .eight, bytes => do
    let (value, rest) ← takeNat 8 bytes
    return (UInt64.ofNat value, rest)

def packContent (content : Bytes) : Bytes := Bytes.ofNatLE 8 content.length ++ content

mutual

def Shape.pack : (shape : Shape) → shape.Carrier → Bytes
  | .bytes _, value => packContent value
  | .text, value => packContent (Utf8.encode value)
  | .flag, value => [if value then 1 else 0]
  | .natural width, value => width.pack value
  | .choice _, value => Bytes.ofNatLE 4 value.val
  | .optional _, none => [0]
  | .optional item, some value => 1 :: item.pack value
  | .list item, values => Bytes.ofNatLE 8 values.length ++ values.flatMap item.pack
  | .record _ _ fields, values => fields.pack values

def Fields.pack : (fields : Fields) → fields.Carrier → Bytes
  | .nil, _ => []
  | .cons _ shape rest, (value, values) => shape.pack value ++ rest.pack values

end

mutual

def Shape.take : (shape : Shape) → Bytes → Except RecordFault (shape.Carrier × Bytes)
  | .bytes _, bytes => do
    let (length, rest) ← takeNat 8 bytes
    takeContent length rest
  | .text, bytes => takeText bytes
  | .flag, bytes => do
    let (tag, rest) ← takeNat 1 bytes
    if tag = 0 then return (false, rest)
    else if tag = 1 then return (true, rest)
    else .error (.badFlag tag)
  | .natural width, bytes => width.take bytes
  | .choice names, bytes => do
    let (index, rest) ← takeNat 4 bytes
    if h : index < names.length then return (⟨index, h⟩, rest)
    else .error (.badChoice index names.length)
  | .optional item, bytes => do
    let (tag, rest) ← takeNat 1 bytes
    if tag = 0 then return (none, rest)
    else if tag = 1 then
      let (value, rest) ← item.take rest
      return (some value, rest)
    else .error (.badOption tag)
  | .list item, bytes => do
    let (count, rest) ← takeNat 8 bytes
    takeAll item.take count rest
  | .record _ _ fields, bytes => fields.take bytes

def Fields.take : (fields : Fields) → Bytes → Except RecordFault (fields.Carrier × Bytes)
  | .nil, bytes => .ok ((), bytes)
  | .cons _ shape rest, bytes => do
    let (value, bytes) ← shape.take bytes
    let (values, bytes) ← rest.take bytes
    return ((value, values), bytes)

end

variable {α : Type} [Described α]

def toRecord (value : α) : Bytes := (shapeOf α).pack (Described.view value)

/-- Reads a described value from the front of a byte string; what follows it is ignored. -/
def ofRecord (α : Type) [Described α] (bytes : Bytes) : Except RecordFault α := do
  let (value, _) ← (shapeOf α).take bytes
  return Described.build value

end EnclaveRegistry.Schema
