/-! # Faults of JSON texts

A fault is a place where a text stops being JSON, named for what was expected there.
-/
namespace EnclaveRegistry.Json

/-- What is wrong with a text that is not JSON. -/
inductive Fault where
  | valueEnd
  | listEnd
  | objectEnd
  | stringEnd
  | expectedColon
  | expectedListSeparator
  | expectedObjectSeparator
  | expectedLiteral
  | expectedValue
  | invalidEscape
  | invalidNumber
  | numberOutOfRange
  | invalidUnicode
  | controlCharacter
  | keyNotString
  | loneSurrogate
  | unpairedSurrogate
  | trailingComma
  | trailingCharacters
  deriving DecidableEq, Inhabited

def Fault.message : Fault → String
  | valueEnd => "EOF while parsing a value"
  | listEnd => "EOF while parsing a list"
  | objectEnd => "EOF while parsing an object"
  | stringEnd => "EOF while parsing a string"
  | expectedColon => "expected `:`"
  | expectedListSeparator => "expected `,` or `]`"
  | expectedObjectSeparator => "expected `,` or `\x7d`"
  | expectedLiteral => "expected ident"
  | expectedValue => "expected value"
  | invalidEscape => "invalid escape"
  | invalidNumber => "invalid number"
  | numberOutOfRange => "number out of range"
  | invalidUnicode => "invalid unicode code point"
  | controlCharacter => "control character (\\u0000-\\u001F) found while parsing a string"
  | keyNotString => "key must be a string"
  | loneSurrogate => "lone leading surrogate in hex escape"
  | unpairedSurrogate => "unexpected end of hex escape"
  | trailingComma => "trailing comma"
  | trailingCharacters => "trailing characters"

end EnclaveRegistry.Json
