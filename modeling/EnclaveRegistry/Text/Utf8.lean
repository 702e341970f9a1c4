import EnclaveRegistry.Bytes

/-! # UTF-8

A text is carried as the octets of its characters. Reading accepts exactly the shortest forms of
scalar values: no surrogate, nothing beyond U+10FFFF, no overlong form.
-/
namespace EnclaveRegistry.Utf8

def encodeChar (c : Char) : Bytes :=
  let n := c.toNat
  if n < 0x80 then [UInt8.ofNat n]
  else if n < 0x800 then [UInt8.ofNat (0xC0 + n / 64), UInt8.ofNat (0x80 + n % 64)]
  else if n < 0x10000 then
    [UInt8.ofNat (0xE0 + n / 4096), UInt8.ofNat (0x80 + n / 64 % 64), UInt8.ofNat (0x80 + n % 64)]
  else
    [UInt8.ofNat (0xF0 + n / 262144), UInt8.ofNat (0x80 + n / 4096 % 64),
      UInt8.ofNat (0x80 + n / 64 % 64), UInt8.ofNat (0x80 + n % 64)]

def encode (text : String) : Bytes := text.toList.flatMap encodeChar

def continuation? (octet : UInt8) : Option Nat :=
  let n := octet.toNat
  if 0x80 ≤ n ∧ n < 0xC0 then some (n - 0x80) else none

/-- The scalar value `value`, if it needs at least `least`. -/
def scalar? (least value : Nat) : Option Char :=
  if h : value.isValidChar then
    if least ≤ value then some (Char.ofNatAux value h) else none
  else none

def two? (a b : UInt8) : Option Char := do
  let x ← continuation? b
  if 0xC0 ≤ a.toNat ∧ a.toNat < 0xE0 then scalar? 0x80 ((a.toNat - 0xC0) * 64 + x) else none

def three? (a b c : UInt8) : Option Char := do
  let x ← continuation? b
  let y ← continuation? c
  if 0xE0 ≤ a.toNat ∧ a.toNat < 0xF0 then
    scalar? 0x800 ((a.toNat - 0xE0) * 4096 + x * 64 + y)
  else none

def four? (a b c d : UInt8) : Option Char := do
  let x ← continuation? b
  let y ← continuation? c
  let z ← continuation? d
  if 0xF0 ≤ a.toNat ∧ a.toNat < 0xF8 then
    scalar? 0x10000 ((a.toNat - 0xF0) * 262144 + x * 4096 + y * 64 + z)
  else none

/-- The characters that the octets stand for, if they are well formed throughout. -/
def decodeChars? : Bytes → Option (List Char)
  | [] => some []
  | a :: rest =>
    if a.toNat < 0x80 then (Char.ofNat a.toNat :: ·) <$> decodeChars? rest
    else if a.toNat < 0xE0 then
      match rest with
      | b :: rest => do return (← two? a b) :: (← decodeChars? rest)
      | _ => none
    else if a.toNat < 0xF0 then
      match rest with
      | b :: c :: rest => do return (← three? a b c) :: (← decodeChars? rest)
      | _ => none
    else
      match rest with
      | b :: c :: d :: rest => do return (← four? a b c d) :: (← decodeChars? rest)
      | _ => none

def decode? (bytes : Bytes) : Option String := String.ofList <$> decodeChars? bytes

/-! ## Ill-formed octets shown as U+FFFD -/

/-- The character that `a` begins, with the number of its octets after `a`. -/
def front? (a : UInt8) (rest : Bytes) : Option (Char × Nat) :=
  -- an octet that is missing is read as 0, which continues no character
  if a.toNat < 0x80 then some (Char.ofNat a.toNat, 0)
  else if a.toNat < 0xE0 then (·, 1) <$> two? a (rest.getD 0 0)
  else if a.toNat < 0xF0 then (·, 2) <$> three? a (rest.getD 0 0) (rest.getD 1 0)
  else (·, 3) <$> four? a (rest.getD 0 0) (rest.getD 1 0) (rest.getD 2 0)

/-- Where `a` begins no character, the number of octets after it that are replaced together with
it: as many as a well-formed character could begin with. -/
def brokenLength (a : UInt8) (rest : Bytes) : Nat :=
  if (three? a (rest.getD 0 0) 0x80).isSome then 1
  else if (four? a (rest.getD 0 0) 0x80 0x80).isSome then
    if (continuation? (rest.getD 1 0)).isSome then 2 else 1
  else 0

def lossyChars : (skipped : Nat) → Bytes → List Char
  | _, [] => []
  | skipped + 1, _ :: rest => lossyChars skipped rest
  | 0, a :: rest =>
    match front? a rest with
    | some (c, length) => c :: lossyChars length rest
    | none => '\uFFFD' :: lossyChars (brokenLength a rest) rest

/-- The text of the octets. Each longest part that is the beginning of a character, but no
character, is shown as one U+FFFD, and so is each octet that begins none. -/
def decodeLossy (bytes : Bytes) : String := String.ofList (lossyChars 0 bytes)

end EnclaveRegistry.Utf8
