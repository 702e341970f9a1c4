import EnclaveRegistry.Json.Tree
import EnclaveRegistry.Text.Base64
import EnclaveRegistry.Text.Quoted

/-! # Why a JSON text is not a value of a shape

A text fails by a fault of its JSON, or by a mismatch between the value that is found and the one
that is expected. A failure also tells the path to the member it was found in.
-/
namespace EnclaveRegistry.Schema

open Json (Fault Number)

inductive Found where
  | null
  | bool (value : Bool)
  | number (value : Number)
  | text (value : String)
  | sequence
  | map
  deriving Inhabited

/-- How JSON mismatches show doubles. -/
def realLayout : Decimal.Layout := ⟨-5, 15⟩

def asciiText (bytes : Bytes) : String := String.ofList (bytes.map fun b => Char.ofNat b.toNat)

def Found.message : Found → String
  | null => "null"
  | bool value => if value then "boolean `true`" else "boolean `false`"
  | number (.natural value) => s!"integer `{value}`"
  | number (.negative value) => s!"integer `-{value}`"
  | number (.real value) => s!"floating point `{asciiText (Decimal.ofFloat realLayout value)}`"
  | text value => "string " ++ Text.quoted value
  | sequence => "sequence"
  | map => "map"

inductive Mismatch where
  | wrongType (found : Found) (expected : String)
  | wrongValue (found : Found) (expected : String)
  | wrongLength (length : Nat) (record : String) (fields : Nat)
  | missingField (name : String)
  | duplicateField (name : String)
  | unknownField (name : String) (known : List String)
  | unknownChoice (name : String) (known : List String)
  | hex (error : Hex.Error)
  | base64 (error : Base64.Error)
  deriving Inhabited

def alternatives : List String → String
  | [] => "nothing"
  | [a] => s!"`{a}`"
  | [a, b] => s!"`{a}` or `{b}`"
  | names => "one of " ++ ", ".intercalate (names.map fun name => s!"`{name}`")

def Mismatch.message : Mismatch → String
  | wrongType found expected => s!"invalid type: {found.message}, expected {expected}"
  | wrongValue found expected => s!"invalid value: {found.message}, expected {expected}"
  | wrongLength length record fields =>
    let elements := if fields = 1 then "element" else "elements"
    s!"invalid length {length}, expected struct {record} with {fields} {elements}"
  | missingField name => s!"missing field `{name}`"
  | duplicateField name => s!"duplicate field `{name}`"
  | unknownField name [] => s!"unknown field `{name}`, there are no fields"
  | unknownField name known => s!"unknown field `{name}`, expected {alternatives known}"
  | unknownChoice name known => s!"unknown variant `{name}`, expected {alternatives known}"
  | hex error => error.message
  | base64 error => "Base64デコードに失敗: " ++ error.message

inductive Cause where
  | fault (fault : Fault)
  | mismatch (mismatch : Mismatch)
  deriving Inhabited

def Cause.message : Cause → String
  | fault f => f.message
  | mismatch m => m.message

inductive PathStep where
  | member (name : String)
  | item (index : Nat)
  deriving DecidableEq, Inhabited

structure Failure where
  path : List PathStep
  cause : Cause
  deriving Inhabited

namespace Failure

def ofFault (fault : Fault) : Failure := ⟨[], .fault fault⟩

def ofMismatch (mismatch : Mismatch) : Failure := ⟨[], .mismatch mismatch⟩

/-- The failure seen from one step further out. -/
def within (step : PathStep) (failure : Failure) : Failure := ⟨step :: failure.path, failure.cause⟩

def message (failure : Failure) : String := failure.cause.message

def pathText : List PathStep → String
  | [] => ""
  | .member name :: rest => tail rest name
  | .item index :: rest => tail rest s!"[{index}]"
where
  /-- Appends the remaining steps to the text so far. -/
  tail : List PathStep → String → String
    | [], text => text
    | .member name :: rest, text => tail rest (text ++ "." ++ name)
    | .item index :: rest, text => tail rest (text ++ s!"[{index}]")

def located (failure : Failure) : String :=
  if failure.path.isEmpty then failure.message
  else pathText failure.path ++ ": " ++ failure.message

/-- Whether the text is no JSON at all. -/
def isFault (failure : Failure) : Bool :=
  match failure.cause with
  | .fault _ => true
  | .mismatch _ => false

end Failure
end EnclaveRegistry.Schema
