/-! # Media types

A media type is two names around a slash, the second with an optional suffix behind a plus sign,
and then parameters between semicolons. Names are compared in lower case.
-/
namespace EnclaveRegistry.Http

structure MediaType where
  type : List Char
  subtype : List Char
  suffix : Option (List Char)
  deriving DecidableEq, Inhabited

def isNameChar (c : Char) : Bool :=
  c.isAlphanum || "!#$%&*+-.^_`|~".toList.contains c || c == Char.ofNat 39

def isQuotedChar (c : Char) : Bool := 31 < c.toNat && c.toNat != 127

def isHeaderChar (c : Char) : Bool := (32 ≤ c.toNat && c.toNat < 127) || c == '\t'

/-- What a character of a parameter list is part of; `begun` tells whether it is not the first. -/
inductive ParameterStage where
  | name (begun : Bool)
  | value (begun : Bool)
  | quoted (begun : Bool)
  | behindQuote
  | broken
  deriving DecidableEq, Inhabited

namespace ParameterStage

def next : ParameterStage → Char → ParameterStage
  | name begun, c =>
    if c = ' ' ∧ ¬ begun then name false
    else if isNameChar c then name true
    else if c = '=' ∧ begun then value false
    else broken
  | value begun, c =>
    if c = '\"' ∧ ¬ begun then quoted false
    else if isNameChar c then value true
    else if c = ';' ∧ begun then name false
    else broken
  | quoted begun, c =>
    if c = '\"' ∧ begun then behindQuote
    else if isQuotedChar c then quoted true
    else broken
  | behindQuote, c =>
    if c = ';' then name false
    else if c = ' ' then behindQuote
    else broken
  | broken, _ => broken

def isEnd : ParameterStage → Bool
  | name begun => !begun
  | value _ => true
  | quoted _ => false
  | behindQuote => true
  | broken => false

end ParameterStage

def areParameters (chars : List Char) : Bool :=
  (chars.foldl ParameterStage.next (.name false)).isEnd

/-- The main part and the suffix of a second name: the suffix follows the last plus sign that is
not the first character. -/
def splitSuffix (name : List Char) : List Char × Option (List Char) :=
  let suffix := (name.reverse.takeWhile (· != '+')).reverse
  if suffix.length + 1 < name.length then
    (name.take (name.length - suffix.length - 1), some suffix)
  else (name, none)

def MediaType.read (text : String) : Option MediaType :=
  let chars := text.toList.map Char.toLower
  let type := chars.takeWhile isNameChar
  match chars.dropWhile isNameChar with
  | '/' :: rest =>
    let name := rest.takeWhile isNameChar
    let (subtype, suffix) := splitSuffix name
    let fits :=
      match rest.dropWhile isNameChar with
      | [] => true
      | ';' :: parameters => !name.isEmpty && areParameters parameters
      | _ => false
    if fits && !type.isEmpty && text.toList.all isHeaderChar then some ⟨type, subtype, suffix⟩
    else none
  | _ => none

def MediaType.isJson (media : MediaType) : Bool :=
  let json := "json".toList
  media.type == "application".toList && (media.subtype == json || media.suffix == some json)

end EnclaveRegistry.Http
