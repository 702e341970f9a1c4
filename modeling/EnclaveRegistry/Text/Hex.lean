import EnclaveRegistry.Bytes

/-! # Hexadecimal text

Two digits stand for one octet. Writing uses lowercase digits; reading takes either case and
refuses an odd number of digits before it looks at any of them.
-/
namespace EnclaveRegistry.Hex

inductive Error where
  | oddLength
  | badDigit (octet : UInt8) (position : Nat)
  deriving DecidableEq, Inhabited

def digit (value : Nat) : UInt8 :=
  if value < 10 then UInt8.ofNat (48 + value) else UInt8.ofNat (87 + value)

def digitValue? (octet : UInt8) : Option Nat :=
  let n := octet.toNat
  if 48 ≤ n ∧ n ≤ 57 then some (n - 48)
  else if 97 ≤ n ∧ n ≤ 102 then some (n - 87)
  else if 65 ≤ n ∧ n ≤ 70 then some (n - 55)
  else none

def digits (bytes : Bytes) : Bytes :=
  bytes.flatMap fun b => [digit (b.toNat / 16), digit (b.toNat % 16)]

def encode (bytes : Bytes) : String :=
  String.ofList ((digits bytes).map fun b => Char.ofNat b.toNat)

def digitAt (octet : UInt8) (position : Nat) : Except Error Nat :=
  match digitValue? octet with
  | some value => .ok value
  | none => .error (.badDigit octet position)

/-- Reads digits pair by pair; `position` counts the digits before them. -/
def decodePairs : Bytes → (position : Nat) → Except Error Bytes
  | high :: low :: rest, position => do
    let h ← digitAt high position
    let l ← digitAt low (position + 1)
    let tail ← decodePairs rest (position + 2)
    return UInt8.ofNat (16 * h + l) :: tail
  | _, _ => .ok []

def decode (text : Bytes) : Except Error Bytes :=
  if text.length % 2 = 1 then .error .oddLength else decodePairs text 0

/-- Reads digits that may stand behind one `0x`. -/
def parse (text : Bytes) : Except Error Bytes :=
  match text with
  | 48 :: 120 :: digits => decode digits
  | digits => decode digits

end EnclaveRegistry.Hex
