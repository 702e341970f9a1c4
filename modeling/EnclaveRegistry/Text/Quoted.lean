import EnclaveRegistry.Text.Printable
import EnclaveRegistry.Text.Hex

/-! # Quoted text in messages

A message shows a text between quotes. The delimiting quote, the backslash and the four common
control characters have short escapes; any other character without a visible form is written by
its code point.
-/
namespace EnclaveRegistry.Text

def hexDigits (value : Nat) : List Char := Nat.toDigits 16 value

/-- A character as it stands between two `delimiter` characters. -/
def escape (delimiter c : Char) : List Char :=
  if c = delimiter ∨ c = '\\' then ['\\', c]
  else if c = '\n' then ['\\', 'n']
  else if c = '\r' then ['\\', 'r']
  else if c = '\t' then ['\\', 't']
  else if c.toNat = 0 then ['\\', '0']
  else if isPrintable c then [c]
  else ['\\', 'u', '\x7b'] ++ hexDigits c.toNat ++ ['\x7d']

def quoted (text : String) : String :=
  String.ofList ('\"' :: text.toList.flatMap (escape '\"') ++ ['\"'])

def quotedChar (c : Char) : String :=
  let quote := Char.ofNat 39
  String.ofList (quote :: escape quote c ++ [quote])

end EnclaveRegistry.Text

namespace EnclaveRegistry.Hex.Error

/-- The wording of a hexadecimal error; an offending octet is shown as the character of its
value. -/
def message : Error → String
  | oddLength => "Odd number of digits"
  | badDigit octet position =>
    s!"Invalid character {Text.quotedChar (Char.ofNat octet.toNat)} at position {position}"

end EnclaveRegistry.Hex.Error
