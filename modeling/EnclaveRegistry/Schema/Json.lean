import EnclaveRegistry.Json.Printer
import EnclaveRegistry.Schema.Failure
import EnclaveRegistry.Schema.Shape

/-! # The JSON form of described values

A record is written as an object with its fields in order. It is read from an object with its
fields in any order, or from a list of its values in field order. An optional field may be left
out; of members that the record does not know, a strict record refuses the first and any other
record skips all. The walk follows the text, so that the first failure in reading order is
reported.
-/
namespace EnclaveRegistry.Schema

open Json (Fault Tree ListEnd ObjectEnd RawText Token Numeral Number)

abbrev Reading (α : Type) := Except Failure α

def check : Option Fault → Reading Unit
  | none => .ok ()
  | some fault => .error (.ofFault fault)

def mismatch {α : Type} (m : Mismatch) : Reading α := .error (.ofMismatch m)

def within {α : Type} (step : PathStep) : Reading α → Reading α
  | .ok a => .ok a
  | .error failure => .error (failure.within step)

def contentOf (raw : RawText) : Reading String :=
  match raw.content with
  | .ok text => .ok text
  | .error fault => .error (.ofFault fault)

def numberOf (numeral : Numeral) : Reading Number :=
  match numeral.number with
  | .ok number => .ok number
  | .error fault => .error (.ofFault fault)

def foundIn : Tree → Reading Found
  | .null => .ok .null
  | .bool value => .ok (.bool value)
  | .numeral n => .number <$> numberOf n
  | .text raw => .text <$> contentOf raw
  | .list _ _ => .ok .sequence
  | .object _ _ => .ok .map
  | .gap gap => .error (.ofFault gap.fault)

def refuse {α : Type} (expected : String) (tree : Tree) : Reading α := do
  mismatch (.wrongType (← foundIn tree) expected)

def readText : Tree → Reading String
  | .text raw => contentOf raw
  | tree => refuse "a string" tree

def ByteForm.read (form : ByteForm) (text : String) : Reading Bytes :=
  match form with
  | .hex =>
    match Hex.parse (Utf8.encode text) with
    | .ok bytes => .ok bytes
    | .error error => mismatch (.hex error)
  | .base64 =>
    match Base64.decode (Utf8.encode text) with
    | .ok bytes => .ok bytes
    | .error error => mismatch (.base64 error)

def ByteForm.write (form : ByteForm) (bytes : Bytes) : Bytes :=
  match form with
  | .hex => Hex.digits bytes
  | .base64 => Base64.encode bytes

def readFlag : Tree → Reading Bool
  | .bool value => .ok value
  | tree => refuse "a boolean" tree

namespace Width

def expected : Width → String
  | four => "u32"
  | eight => "u64"

def ofNat? : (width : Width) → Nat → Option width.Carrier
  | four, value => if value < UInt32.size then some (UInt32.ofNat value) else none
  | eight, value => if value < UInt64.size then some (UInt64.ofNat value) else none

def toNat : (width : Width) → width.Carrier → Nat
  | four, value => UInt32.toNat value
  | eight, value => UInt64.toNat value

/-- Reads an unsigned integer. A number with a fraction or an exponent is none, whatever its
value. -/
def read (width : Width) : Tree → Reading width.Carrier
  | .numeral n => do
    match ← numberOf n with
    | .natural value =>
      match width.ofNat? value with
      | some value => .ok value
      | none => mismatch (.wrongValue (.number (.natural value)) width.expected)
    | .negative value => mismatch (.wrongValue (.number (.negative value)) width.expected)
    | .real value => mismatch (.wrongType (.number (.real value)) width.expected)
  | tree => refuse width.expected tree

end Width

def readChoice (names : List String) (name : String) : Reading (Fin names.length) :=
  if h : names.idxOf name < names.length then .ok ⟨names.idxOf name, h⟩
  else mismatch (.unknownChoice name names)

/-- Reads the tree that a token in place of a choice's name would start. -/
def foundAt : Token → Tree
  | .null => .null
  | .bool value => .bool value
  | .numeral n => .numeral n
  | .openList => .list [] .ended
  | .openObject => .object [] .ended
  | .brokenLiteral true => .gap .literalEnded
  | .brokenLiteral false => .gap .literalBroken
  | _ => .gap .absent

/-- Reads one of several names: a string, or an object with that name and nothing in it. -/
def readChoiceTree (names : List String) : Tree → Reading (Fin names.length)
  | .text raw => do readChoice names (← contentOf raw)
  | .object ((key, value) :: rest) ending => do
    let choice ← readChoice names (← contentOf key)
    match value with
    | .null =>
      match rest, ending with
      | [], .closed => .ok choice
      | [], .ended => .error (.ofFault .objectEnd)
      | _, _ => .error (.ofFault .expectedValue)
    | value => refuse "unit" value
  | .object [] (.noKey token) => refuse "variant identifier" (foundAt token)
  | .object [] .ended => .error (.ofFault .valueEnd)
  | .gap .ended => .error (.ofFault .valueEnd)
  | _ => .error (.ofFault .expectedValue)

def readItems {α : Type} (read : Tree → Reading α) : (index : Nat) → List Tree → Reading (List α)
  | _, [] => .ok []
  | index, tree :: rest => do
    let head ← within (.item index) (read tree)
    let tail ← readItems read (index + 1) rest
    return head :: tail

@[reducible] def Fields.Slots : Fields → Type
  | .nil => Unit
  | .cons _ shape rest => Option shape.Carrier × Fields.Slots rest

def Fields.noSlots : (fields : Fields) → fields.Slots
  | .nil => ()
  | .cons _ _ rest => (none, rest.noSlots)

/-- The value of a field that is left out; only an optional field has one. -/
def Shape.leftOut? : (shape : Shape) → Option shape.Carrier
  | .optional _ => some none
  | _ => none

def Fields.settle : (fields : Fields) → fields.Slots → Reading fields.Carrier
  | .nil, _ => .ok ()
  | .cons name shape rest, (slot, slots) =>
    match slot.or shape.leftOut? with
    | some value => do return (value, ← rest.settle slots)
    | none => mismatch (.missingField name)

def Fields.count : Fields → Nat
  | .nil => 0
  | .cons _ _ rest => rest.count + 1

/-- Reads the members of an object. A member is offered to `fill`, which answers nothing for a
name that is no field. -/
def readMembers {σ : Type} (strict : Bool) (names : List String)
    (fill : String → Tree → σ → Reading (Option σ)) :
    σ → List (RawText × Tree) → Reading σ
  | slots, [] => .ok slots
  | slots, (key, tree) :: rest => do
    let name ← contentOf key
    match ← fill name tree slots with
    | some slots => readMembers strict names fill slots rest
    | none =>
      if strict then mismatch (.unknownField name names) else
      within (.member name) (check tree.skipFault?)
      readMembers strict names fill slots rest

mutual

def Shape.read : (shape : Shape) → Tree → Reading shape.Carrier
  | .bytes form, tree => do form.read (← readText tree)
  | .text, tree => readText tree
  | .flag, tree => readFlag tree
  | .natural width, tree => width.read tree
  | .choice names, tree => readChoiceTree names tree
  | .optional _, .null => .ok none
  | .optional item, tree => some <$> item.read tree
  | .list item, tree =>
    match tree with
    | .list items ending => do
      let values ← readItems item.read 0 items
      within (.item items.length) (check ending.fault?)
      return values
    | tree => refuse "a sequence" tree
  | .record name strict fields, tree =>
    match tree with
    | .list items ending => fields.readPositional name fields.count 0 items ending
    | .object members ending => do
      let slots ← readMembers strict fields.names fields.fill fields.noSlots members
      check ending.fault?
      fields.settle slots
    | tree => refuse ("struct " ++ name) tree

/-- Offers a member to the fields: nothing if none of them has its name. -/
def Fields.fill : (fields : Fields) → String → Tree → fields.Slots → Reading (Option fields.Slots)
  | .nil, _, _, _ => .ok none
  | .cons name shape rest, key, tree, (slot, slots) =>
    if key = name then
      if slot.isSome then mismatch (.duplicateField name)
      else do return some (some (← within (.member name) (shape.read tree)), slots)
    else do
      match ← rest.fill key tree slots with
      | some slots => return some (slot, slots)
      | none => return none

/-- Reads the values of the fields from a list in field order; trailing optional fields may be
left out. `index` counts the items before them. -/
def Fields.readPositional : (fields : Fields) → (record : String) → (size index : Nat) →
    List Tree → ListEnd → Reading fields.Carrier
  | .nil, _, _, _, items, ending =>
    match items with
    | [] => check ending.surplusFault?
    | _ :: _ => .error (.ofFault .trailingCharacters)
  | .cons _ shape rest, record, size, index, tree :: items, ending => do
    let value ← within (.item index) (shape.read tree)
    return (value, ← rest.readPositional record size (index + 1) items ending)
  | .cons _ shape rest, record, size, index, [], ending => do
    within (.item index) (check ending.fault?)
    match shape.leftOut? with
    | some value => return (value, ← rest.readPositional record size (index + 1) [] ending)
    | none => mismatch (.wrongLength index record size)

end

mutual

def Shape.tree : (shape : Shape) → shape.Carrier → Tree
  | .bytes form, value => .text (.ofBytes (form.write value))
  | .text, value => .text (.ofString value)
  | .flag, value => .bool value
  | .natural width, value => .numeral (.ofNat (width.toNat value))
  | .choice names, value => .text (.ofString (names.get value))
  | .optional _, none => .null
  | .optional item, some value => item.tree value
  | .list item, values => .list (values.map item.tree) .closed
  | .record _ _ fields, values => .object (fields.members values) .closed

def Fields.members : (fields : Fields) → fields.Carrier → List (RawText × Tree)
  | .nil, _ => []
  | .cons name shape rest, (value, values) =>
    (.ofString name, shape.tree value) :: rest.members values

end

def Shape.readDocument (shape : Shape) (text : Bytes) : Reading shape.Carrier := do
  let document := Json.Document.read text
  let value ← shape.read document.root
  check (if document.trailing then some .trailingCharacters else none)
  return value

variable {α : Type} [Described α]

def treeOf (value : α) : Tree := (shapeOf α).tree (Described.view value)

def toJson (value : α) : Bytes := (treeOf value).compact

def toPrettyJson (value : α) : Bytes := (treeOf value).pretty

def ofJson (α : Type) [Described α] (text : Bytes) : Reading α :=
  Described.build <$> (shapeOf α).readDocument text

end EnclaveRegistry.Schema
