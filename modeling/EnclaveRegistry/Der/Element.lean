import EnclaveRegistry.Bytes

/-! # DER elements

An element is a tag, a length and that many octets of content. Tags take one octet, and lengths
are written in the fewest octets.
-/
namespace EnclaveRegistry.Der

structure Element where
  tag : UInt8
  content : Bytes
  deriving DecidableEq, Inhabited

def universalTags : List Nat :=
  [0x01, 0x02, 0x03, 0x04, 0x05, 0x06, 0x09, 0x0A, 0x0C, 0x12, 0x13, 0x14, 0x15, 0x16, 0x17, 0x18,
    0x1A, 0x1B, 0x1E, 0x30, 0x31]

/-- Whether an octet is a tag: one of the universal ones, or of another class with a number that
fits the octet. -/
def isTag (octet : UInt8) : Bool :=
  let n := octet.toNat
  if n < 0x40 then universalTags.contains n else n % 32 != 31

def maxLength : Nat := 0xfffffff

def octetCount (value : Nat) : Nat :=
  if value < 0x100 then 1 else if value < 0x10000 then 2 else if value < 0x1000000 then 3 else 4

def writeLength (length : Nat) : Bytes :=
  if length < 128 then [UInt8.ofNat length]
  else UInt8.ofNat (128 + octetCount length) :: Bytes.ofNatBE (octetCount length) length

/-- Reads a length, which must be written in the fewest octets. -/
def readLength : Bytes → Option (Nat × Bytes)
  | [] => none
  | b :: rest =>
    if b.toNat < 128 then some (b.toNat, rest)
    else
      let count := b.toNat - 128
      let length := Bytes.toNatBE (rest.take count)
      if count = 0 ∨ 4 < count ∨ rest.length < count then none
      else if 128 ≤ length ∧ octetCount length = count ∧ length ≤ maxLength then
        some (length, rest.drop count)
      else none

namespace Element

def write (element : Element) : Bytes :=
  element.tag :: writeLength element.content.length ++ element.content

def read : Bytes → Option (Element × Bytes)
  | [] => none
  | tag :: rest => do
    if !isTag tag then none else
    let (length, rest) ← readLength rest
    if rest.length < length then none else
    return (⟨tag, rest.take length⟩, rest.drop length)

/-- Reads elements to the end; each takes at least one of `fuel` octets. -/
def readUpTo : (fuel : Nat) → Bytes → Option (List Element)
  | _, [] => some []
  | 0, _ :: _ => none
  | fuel + 1, octets => do
    let (element, rest) ← read octets
    return element :: (← readUpTo fuel rest)

def readAll (octets : Bytes) : Option (List Element) := readUpTo octets.length octets

def readWhole (octets : Bytes) : Option Element := do
  let (element, rest) ← read octets
  if rest.isEmpty then return element else none

def inside? (tag : UInt8) (element : Element) : Option (List Element) :=
  if element.tag = tag then readAll element.content else none

def holding (tag : UInt8) (elements : List Element) : Element := ⟨tag, elements.flatMap write⟩

end Element
end EnclaveRegistry.Der
