import EnclaveRegistry.Decimal.Natural
import EnclaveRegistry.Der.Element

/-! # Primitive DER values

Integers, bit strings, truth values, object identifiers and times, each with the forms of content
that it allows.
-/
namespace EnclaveRegistry.Der

def integerTag : UInt8 := 0x02

def bitStringTag : UInt8 := 0x03

def identifierTag : UInt8 := 0x06

def sequenceTag : UInt8 := 0x30

def setTag : UInt8 := 0x31

def isInteger : Bytes → Bool
  | [] => false
  | [_] => true
  | a :: b :: _ => !(a == 0 && b.toNat < 128) && !(a == 255 && 128 ≤ b.toNat)

def natural? : Bytes → Option Nat
  | [] => none
  | [0] => some 0
  | 0 :: b :: rest => if b.toNat < 128 then none else some (Bytes.toNatBE (b :: rest))
  | b :: rest => if 128 ≤ b.toNat then none else some (Bytes.toNatBE (b :: rest))

/-- Whether the octets behind the first two arcs of an object identifier are complete arcs of at
most 32 bits; `taken` counts the octets of the arc that is being read. -/
def areArcs : (taken : Nat) → Bytes → Bool
  | taken, [] => taken == 0
  | taken, b :: rest =>
    if 4 ≤ taken ∧ 16 ≤ b.toNat then false
    else areArcs (if b.toNat < 128 then 0 else taken + 1) rest

def isIdentifier (octets : Bytes) : Bool :=
  match octets with
  | first :: rest =>
    3 ≤ octets.length && octets.length ≤ 39 && first.toNat < 120 && areArcs 0 rest
  | [] => false

/-- A bit string; the last octet has `unused` bits that do not count. -/
structure BitString where
  unused : UInt8
  octets : Bytes
  deriving DecidableEq, Inhabited

def BitString.ofContent? : Bytes → Option BitString
  | [] => none
  | unused :: octets =>
    if unused = 0 ∨ (unused.toNat ≤ 7 ∧ octets ≠ []) then some ⟨unused, octets⟩ else none

def BitString.content (bits : BitString) : Bytes := bits.unused :: bits.octets

def digitPairs? : Bytes → Option (List Nat)
  | [] => some []
  | a :: b :: rest =>
    if Decimal.isDigit a && Decimal.isDigit b then do
      return (Decimal.digitValue a * 10 + Decimal.digitValue b) :: (← digitPairs? rest)
    else none
  | [_] => none

def isLeapYear (year : Nat) : Bool := year % 4 == 0 && (year % 100 != 0 || year % 400 == 0)

def daysOf (year month : Nat) : Nat :=
  if month = 2 then if isLeapYear year then 29 else 28
  else if month = 4 ∨ month = 6 ∨ month = 9 ∨ month = 11 then 30
  else 31

def isDateTime (year month day hour minute second : Nat) : Bool :=
  1970 ≤ year && 1 ≤ month && month ≤ 12 && 1 ≤ day && day ≤ daysOf year month &&
    hour < 24 && minute < 60 && second < 60

def zoneless? (content : Bytes) : Option Bytes :=
  if content.getLast? = some 90 then some content.dropLast else none

/-- Whether an element is a time: with two digits of the year, from 1950 to 2049, or with four. -/
def isTime (element : Element) : Bool :=
  match (zoneless? element.content).bind digitPairs? with
  | some [year, month, day, hour, minute, second] =>
    element.tag == 0x17 &&
      isDateTime (if 50 ≤ year then 1900 + year else 2000 + year) month day hour minute second
  | some [century, year, month, day, hour, minute, second] =>
    element.tag == 0x18 && isDateTime (100 * century + year) month day hour minute second
  | _ => false

end EnclaveRegistry.Der
