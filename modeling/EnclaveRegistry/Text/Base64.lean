import EnclaveRegistry.Bytes

/-! # Base64 text

Three octets are written as four symbols of the standard alphabet, and the last group is padded
with `=` to four. Reading accepts exactly what writing produces: padding is required, and the bits
that the last symbol leaves unused are zero.
-/
namespace EnclaveRegistry.Base64

inductive Error where
  | symbol (octet : UInt8) (offset : Nat)
  | lastSymbol (octet : UInt8) (offset : Nat)
  | length (symbols : Nat)
  | padding
  deriving DecidableEq, Inhabited

namespace Error

def message : Error → String
  | symbol octet offset => s!"Invalid symbol {octet.toNat}, offset {offset}."
  | lastSymbol octet offset => s!"Invalid last symbol {octet.toNat}, offset {offset}."
  | length symbols => s!"Invalid input length: {symbols}"
  | padding => "Invalid padding"

end Error

def pad : UInt8 := 61

def symbol (value : Nat) : UInt8 :=
  if value < 26 then UInt8.ofNat (65 + value)
  else if value < 52 then UInt8.ofNat (71 + value)
  else if value < 62 then UInt8.ofNat (value - 4)
  else if value = 62 then 43 else 47

def symbolValue? (octet : UInt8) : Option Nat :=
  let n := octet.toNat
  if 65 ≤ n ∧ n ≤ 90 then some (n - 65)
  else if 97 ≤ n ∧ n ≤ 122 then some (n - 71)
  else if 48 ≤ n ∧ n ≤ 57 then some (n + 4)
  else if n = 43 then some 62
  else if n = 47 then some 63
  else none

def encode : Bytes → Bytes
  | [] => []
  | [a] => [symbol (a.toNat / 4), symbol (a.toNat % 4 * 16), pad, pad]
  | [a, b] =>
    [symbol (a.toNat / 4), symbol (a.toNat % 4 * 16 + b.toNat / 16),
      symbol (b.toNat % 16 * 4), pad]
  | a :: b :: c :: rest =>
    symbol (a.toNat / 4) :: symbol (a.toNat % 4 * 16 + b.toNat / 16) ::
      symbol (b.toNat % 16 * 4 + c.toNat / 64) :: symbol (c.toNat % 64) :: encode rest

def symbolAt (octet : UInt8) (offset : Nat) : Except Error Nat :=
  match symbolValue? octet with
  | some value => .ok value
  | none => .error (.symbol octet offset)

def group (a b c d : Nat) : Bytes :=
  [UInt8.ofNat (a * 4 + b / 16), UInt8.ofNat (b % 16 * 16 + c / 4), UInt8.ofNat (c % 4 * 64 + d)]

/-- Reads a group of two symbols and its padding; the four unused bits are zero. -/
def decodeTwo (a b : UInt8) (offset : Nat) : Except Error Bytes := do
  let x ← symbolAt a offset
  let y ← symbolAt b (offset + 1)
  if y % 16 ≠ 0 then .error (.lastSymbol b (offset + 1)) else
  return [UInt8.ofNat (x * 4 + y / 16)]

/-- Reads a group of three symbols and its padding; the two unused bits are zero. -/
def decodeThree (a b c : UInt8) (offset : Nat) : Except Error Bytes := do
  let x ← symbolAt a offset
  let y ← symbolAt b (offset + 1)
  let z ← symbolAt c (offset + 2)
  if z % 4 ≠ 0 then .error (.lastSymbol c (offset + 2)) else
  return [UInt8.ofNat (x * 4 + y / 16), UInt8.ofNat (y % 16 * 16 + z / 4)]

def decodeFour (a b c d : UInt8) (offset : Nat) : Except Error Bytes := do
  let w ← symbolAt a offset
  let x ← symbolAt b (offset + 1)
  let y ← symbolAt c (offset + 2)
  let z ← symbolAt d (offset + 3)
  return group w x y z

/-- Reads symbols that must all be of the alphabet and then fails with `error`. -/
def refuse (error : Error) : Bytes → (offset : Nat) → Except Error Bytes
  | [], _ => .error error
  | octet :: rest, offset => do
    discard (symbolAt octet offset)
    refuse error rest (offset + 1)

/-- Reads the last group, which alone may be padded; a pad stands only after two or three
symbols and only other pads follow it. -/
def decodeLast (text : Bytes) (offset : Nat) : Except Error Bytes :=
  match text with
  | [] => .ok []
  | [a] => refuse (.length (offset + 1)) [a] offset
  | [a, b] => refuse .padding [a, b] offset
  | [a, b, c] => refuse .padding (if c = pad then [a, b] else [a, b, c]) offset
  | [a, b, c, d] =>
    if c = pad then
      if d = pad then decodeTwo a b offset
      else refuse (.symbol pad (offset + 2)) [a, b] offset
    else if d = pad then decodeThree a b c offset
    else decodeFour a b c d offset
  | _ => .error .padding

def decodeGroups : Bytes → (offset : Nat) → Except Error Bytes
  | a :: b :: c :: d :: e :: rest, offset => do
    let head ← decodeFour a b c d offset
    let tail ← decodeGroups (e :: rest) (offset + 4)
    return head ++ tail
  | text, offset => decodeLast text offset

/-- The octet after the last whole group, where it stands alone and belongs to no group. -/
def strayEnd? (text : Bytes) : Option UInt8 :=
  if text.length % 4 = 1 then
    text.getLast?.filter fun octet => octet ≠ pad ∧ symbolValue? octet = none
  else none

/-- The byte string that a base64 text stands for. A lone foreign octet at the very end is
reported before anything else. -/
def decode (text : Bytes) : Except Error Bytes :=
  match strayEnd? text with
  | some octet => .error (.symbol octet (text.length - 1))
  | none => decodeGroups text 0

end EnclaveRegistry.Base64
