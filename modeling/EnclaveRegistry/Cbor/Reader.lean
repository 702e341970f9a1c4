import EnclaveRegistry.Cbor.Item
import EnclaveRegistry.Text.Utf8

/-! # Reading CBOR

An item starts with a head: its major type and an argument, which may be longer than it needs to
be. Strings, arrays and maps without an argument go on until a break; a string without one is a
series of chunks, and such series may stand inside each other.
-/
namespace EnclaveRegistry.Cbor

/-- The head of an item. The argument was sent in `width` octets of its own. -/
structure Head where
  major : Nat
  width : Nat
  argument : Option Nat
  deriving DecidableEq, Inhabited

def Head.read : Bytes → Option (Head × Bytes)
  | [] => none
  | b :: rest =>
    let major := b.toNat / 32
    let minor := b.toNat % 32
    if minor < 24 then some (⟨major, 0, some minor⟩, rest)
    else if minor < 28 then
      let width := 1 <<< (minor - 24)
      if rest.length < width then none
      else some (⟨major, width, some (Bytes.toNatBE (rest.take width))⟩, rest.drop width)
    else if minor = 31 then some (⟨major, 0, none⟩, rest)
    else none

def takeContent (length : Nat) (bytes : Bytes) : Option (Bytes × Bytes) :=
  if bytes.length < length then none else some (bytes.take length, bytes.drop length)

/-- Reads the chunks of a string of a major type; `nested` series are still to be ended. -/
def readChunks (major : Nat) : (fuel nested : Nat) → Bytes → Option (List Bytes × Bytes)
  | 0, _, _ => none
  | fuel + 1, nested, bytes => do
    let (head, rest) ← Head.read bytes
    match head.argument with
    | none =>
      if head.major = 7 then
        if nested ≤ 1 then return ([], rest) else readChunks major fuel (nested - 1) rest
      else if head.major = major then readChunks major fuel (nested + 1) rest
      else none
    | some length =>
      if head.major ≠ major then none else
      let (chunk, rest) ← takeContent length rest
      let (chunks, rest) ← readChunks major fuel nested rest
      return (chunk :: chunks, rest)

def textOfChunks? (chunks : List Bytes) : Option String := do
  return String.join (← chunks.mapM Utf8.decode?)

def pairs? : List Item → Option (List (Item × Item))
  | [] => some []
  | key :: value :: rest => do return (key, value) :: (← pairs? rest)
  | [_] => none

def leaf? (head : Head) (value : Nat) : Option Item :=
  match head.major with
  | 0 => some (.unsigned value)
  | 1 => some (.negative value)
  | 7 =>
    if head.width ≤ 1 then some (.simple value)
    else some (.float (Bytes.ofNatBE head.width value))
  | _ => none

mutual

def readItem : (fuel : Nat) → Bytes → Option (Item × Bytes)
  | 0, _ => none
  | fuel + 1, bytes => do
    let (head, rest) ← Head.read bytes
    match head.major, head.argument with
    | 2, some length =>
      let (content, rest) ← takeContent length rest
      return (.bytes content false, rest)
    | 2, none =>
      let (chunks, rest) ← readChunks 2 rest.length 1 rest
      return (.bytes chunks.flatten true, rest)
    | 3, some length =>
      let (content, rest) ← takeContent length rest
      return (.text (← Utf8.decode? content) false, rest)
    | 3, none =>
      let (chunks, rest) ← readChunks 3 rest.length 1 rest
      return (.text (← textOfChunks? chunks) true, rest)
    | 4, some count =>
      let (items, rest) ← readItems fuel count rest
      return (.array items, rest)
    | 4, none =>
      let (items, rest) ← readUntilBreak fuel rest
      return (.array items, rest)
    | 5, some count =>
      let (items, rest) ← readItems fuel (2 * count) rest
      return (.map (← pairs? items), rest)
    | 5, none =>
      let (items, rest) ← readUntilBreak fuel rest
      return (.map (← pairs? items), rest)
    | 6, some tag =>
      let (item, rest) ← readItem fuel rest
      return (.tagged tag item, rest)
    | _, some value => return (← leaf? head value, rest)
    | _, none => none

def readItems : (fuel count : Nat) → Bytes → Option (List Item × Bytes)
  | _, 0, bytes => some ([], bytes)
  | 0, _ + 1, _ => none
  | fuel + 1, count + 1, bytes => do
    let (item, rest) ← readItem fuel bytes
    let (items, rest) ← readItems fuel count rest
    return (item :: items, rest)

def readUntilBreak : (fuel : Nat) → Bytes → Option (List Item × Bytes)
  | 0, _ => none
  | fuel + 1, bytes =>
    match bytes with
    | 255 :: rest => some ([], rest)
    | bytes => do
      let (item, rest) ← readItem fuel bytes
      let (items, rest) ← readUntilBreak fuel rest
      return (item :: items, rest)

end

/-- Reads the item at the front. An item of `n` octets needs no more than `2 n` steps. -/
def Item.read (bytes : Bytes) : Option (Item × Bytes) := readItem (2 * bytes.length) bytes

def Item.readWhole (bytes : Bytes) : Option Item := do
  let (item, rest) ← Item.read bytes
  if rest.isEmpty then return item else none

end EnclaveRegistry.Cbor
