import EnclaveRegistry.Json.Fault
import EnclaveRegistry.Text.Hex
import EnclaveRegistry.Text.Utf8

/-! # Strings of JSON texts

A string is kept as it is written, octet by octet and escape by escape, together with how it ends.
Its content is read off in a second step, because a string that nobody looks at may hold unpaired
surrogates and octets that are no UTF-8.
-/
namespace EnclaveRegistry.Json

/-- A unit of a written string: an octet as it is, an octet behind a short escape, or a 16-bit unit
behind a hexadecimal escape. -/
inductive Piece where
  | plain (octet : UInt8)
  | short (octet : UInt8)
  | unit (value : Nat)
  deriving DecidableEq, Inhabited

/-- How a written string ends: at its closing quote, or where it breaks off. -/
inductive Ending where
  | closed
  | unterminated
  | control
  | unknownEscape
  | badDigits
  deriving DecidableEq, Inhabited

/-- A string as written, without its opening quote. -/
structure RawText where
  pieces : List Piece
  ending : Ending
  deriving DecidableEq, Inhabited

def shortEscape? (letter : UInt8) : Option UInt8 :=
  match letter.toNat with
  | 34 => some 34
  | 92 => some 92
  | 47 => some 47
  | 98 => some 8
  | 102 => some 12
  | 110 => some 10
  | 114 => some 13
  | 116 => some 9
  | _ => none

def escapeLetter (octet : UInt8) : UInt8 :=
  match octet.toNat with
  | 8 => 98
  | 12 => 102
  | 10 => 110
  | 13 => 114
  | 9 => 116
  | _ => octet

def unit? (a b c d : UInt8) : Option Nat := do
  let w ← Hex.digitValue? a
  let x ← Hex.digitValue? b
  let y ← Hex.digitValue? c
  let z ← Hex.digitValue? d
  return ((w * 16 + x) * 16 + y) * 16 + z

namespace RawText

def cons (piece : Piece) (text : RawText) : RawText := ⟨piece :: text.pieces, text.ending⟩

def read : Bytes → RawText × Bytes
  | [] => (⟨[], .unterminated⟩, [])
  | b :: rest =>
    if b = 34 then (⟨[], .closed⟩, rest)
    else if b = 92 then
      match rest with
      | [] => (⟨[], .unterminated⟩, [])
      | e :: rest =>
        if e = 117 then
          match rest with
          | h₁ :: h₂ :: h₃ :: h₄ :: rest =>
            match unit? h₁ h₂ h₃ h₄ with
            | some value =>
              let (text, after) := read rest
              (text.cons (.unit value), after)
            | none => (⟨[], .badDigits⟩, rest)
          | _ => (⟨[], .unterminated⟩, [])
        else
          match shortEscape? e with
          | some octet =>
            let (text, after) := read rest
            (text.cons (.short octet), after)
          | none => (⟨[], .unknownEscape⟩, rest)
    else if b.toNat < 32 then (⟨[], .control⟩, rest)
    else
      let (text, after) := read rest
      (text.cons (.plain b), after)

def pieceOf (octet : UInt8) : Piece :=
  if octet = 34 ∨ octet = 92 ∨ octet = 8 ∨ octet = 9 ∨ octet = 10 ∨ octet = 12 ∨ octet = 13 then
    .short octet
  else if octet.toNat < 32 then .unit octet.toNat
  else .plain octet

def ofBytes (bytes : Bytes) : RawText := ⟨bytes.map pieceOf, .closed⟩

def ofString (text : String) : RawText := ofBytes (Utf8.encode text)

def pieceText : Piece → Bytes
  | .plain octet => [octet]
  | .short octet => [92, escapeLetter octet]
  | .unit value =>
    [92, 117, Hex.digit (value / 4096 % 16), Hex.digit (value / 256 % 16),
      Hex.digit (value / 16 % 16), Hex.digit (value % 16)]

def text (raw : RawText) : Bytes := 34 :: raw.pieces.flatMap pieceText ++ [34]

def skipFault? (raw : RawText) : Option Fault :=
  match raw.ending with
  | .closed => none
  | .unterminated => some .stringEnd
  | .control => some .controlCharacter
  | .unknownEscape => some .invalidEscape
  | .badDigits => some .invalidEscape

def isLeading (value : Nat) : Bool := 0xD800 ≤ value && value < 0xDC00

def isTrailing (value : Nat) : Bool := 0xDC00 ≤ value && value < 0xE000

/-- The octets of the pieces. A surrogate must be followed at once by its other half. -/
def octets : List Piece → Ending → Except Fault Bytes
  | [], ending =>
    match ending with
    | .closed => .ok []
    | .unterminated => .error .stringEnd
    | .control => .error .controlCharacter
    | .unknownEscape => .error .invalidEscape
    | .badDigits => .error .invalidEscape
  | .plain octet :: rest, ending => (octet :: ·) <$> octets rest ending
  | .short octet :: rest, ending => (octet :: ·) <$> octets rest ending
  | .unit value :: rest, ending =>
    if isTrailing value then .error .loneSurrogate
    else if isLeading value then
      match rest with
      | .unit next :: rest =>
        if isTrailing next then
          let scalar := 0x10000 + (value - 0xD800) * 1024 + (next - 0xDC00)
          (Utf8.encodeChar (Char.ofNat scalar) ++ ·) <$> octets rest ending
        else .error .loneSurrogate
      | _ :: _ => .error .unpairedSurrogate
      | [] =>
        match ending with
        | .unterminated => .error .stringEnd
        | .badDigits => .error .invalidEscape
        | _ => .error .unpairedSurrogate
    else (Utf8.encodeChar (Char.ofNat value) ++ ·) <$> octets rest ending

def content (raw : RawText) : Except Fault String :=
  match octets raw.pieces raw.ending with
  | .error fault => .error fault
  | .ok bytes =>
    match Utf8.decode? bytes with
    | some text => .ok text
    | none => .error .invalidUnicode

end RawText
end EnclaveRegistry.Json
