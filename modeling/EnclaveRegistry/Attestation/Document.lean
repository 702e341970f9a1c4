import EnclaveRegistry.Attestation.Error
import EnclaveRegistry.Cose.Envelope

/-! # Attestation documents

The payload of an enclave's certificate is a CBOR map with named fields. Tags before a field's
value are dropped, members of other names are skipped as long as they can be read, and a byte
string may also be sent as an array of octets.
-/
namespace EnclaveRegistry.Attestation

open Cbor (Item)

structure Document where
  moduleId : String
  digest : String
  timestamp : UInt64
  pcrs : List (UInt32 × Bytes)
  certificate : Bytes
  bundle : List Bytes
  publicKey : Option Bytes
  userData : Option Bytes
  nonce : Option Bytes
  deriving DecidableEq, Inhabited

def natural? (limit : Nat) (item : Item) : Option Nat := do
  let value ← item.integer?
  if 0 ≤ value ∧ value < limit then return value.toNat else none

def text? (item : Item) : Option String :=
  match item.untagged with
  | .text text _ => some text
  | _ => none

def octets? (item : Item) : Option Bytes :=
  match item.untagged with
  | .bytes content _ => some content
  | .array items => items.mapM fun item => UInt8.ofNat <$> natural? 256 item
  | _ => none

/-- The byte strings of a list; an empty byte string is an empty list. -/
def octetLists? (item : Item) : Option (List Bytes) :=
  match item.untagged with
  | .array items => items.mapM octets?
  | .bytes [] _ => some []
  | _ => none

def optionalOctets? (item : Item) : Option (Option Bytes) :=
  if item.isNull then some none else some <$> octets? item

/-- Puts an entry in its place among ascending keys, in place of one with the same key. -/
def insertByIndex (index : UInt32) (value : Bytes) : List (UInt32 × Bytes) → List (UInt32 × Bytes)
  | [] => [(index, value)]
  | entry :: rest =>
    if index < entry.1 then (index, value) :: entry :: rest
    else if index = entry.1 then (index, value) :: rest
    else entry :: insertByIndex index value rest

/-- The measurements of a map, ascending; of equal indexes the last one counts. -/
def measurements? (item : Item) : Option (List (UInt32 × Bytes)) :=
  match item.untagged with
  | .map entries =>
    entries.foldlM (fun measurements entry => do
      let index ← natural? UInt32.size entry.1
      return insertByIndex (UInt32.ofNat index) (← octets? entry.2) measurements) []
  | _ => none

def longestName : Nat := 4096

/-- The name of a member: a text or the octets of one, sent in one piece. A name in octets that
are no text is none of the known names. -/
def memberName? (item : Item) : Option (Option String) :=
  match item.untagged with
  | .text text false => if (Utf8.encode text).length ≤ longestName then some (some text) else none
  | .bytes content false =>
    if content.length ≤ longestName then some (Utf8.decode? content) else none
  | _ => none

def fieldNames : List String :=
  ["module_id", "digest", "timestamp", "pcrs", "certificate", "cabundle", "public_key",
    "user_data", "nonce"]

/-- The members of the known names; the others must be plain values. -/
def fields? : List (Item × Item) → Option (List (String × Item))
  | [] => some []
  | (key, value) :: rest => do
    match ← memberName? key with
    | some name =>
      if name ∈ fieldNames then return (name, value) :: (← fields? rest)
      else if value.isPlain 255 then fields? rest
      else none
    | none => if value.isPlain 255 then fields? rest else none

def required? {α : Type} (read : Item → Option α) (fields : List (String × Item))
    (name : String) : Option α :=
  (fields.lookup name).bind read

def optional? (fields : List (String × Item)) (name : String) : Option (Option Bytes) :=
  match fields.lookup name with
  | some item => optionalOctets? item
  | none => some none

/-- The document that an item stands for. No field may be there twice. -/
def Document.ofItem? (item : Item) : Option Document :=
  match item.untagged with
  | .map entries => do
    let fields ← fields? entries
    if ¬ (fields.map (·.1)).Nodup then none else
    return ⟨← required? text? fields "module_id", ← required? text? fields "digest",
      UInt64.ofNat (← required? (natural? UInt64.size) fields "timestamp"),
      ← required? measurements? fields "pcrs", ← required? octets? fields "certificate",
      ← required? octetLists? fields "cabundle", ← optional? fields "public_key",
      ← optional? fields "user_data", ← optional? fields "nonce"⟩
  | _ => none

/-- Reads a document from the front of a payload; what follows it is ignored. -/
def Document.read (payload : Bytes) : Option Document := do
  let (item, _) ← Item.read payload
  Document.ofItem? item

structure Statement where
  envelope : Cose.Envelope
  payload : Bytes
  document : Document
  deriving DecidableEq, Inhabited

/-- Reads a certificate without looking at any signature. -/
def Statement.read (certificate : Bytes) : Except AttestationError Statement :=
  match Cose.Envelope.read certificate with
  | none => .error .envelopeUnreadable
  | some envelope =>
    match envelope.payload with
    | none => .error (.missingField "payload")
    | some payload =>
      match Document.read payload with
      | none => .error .payloadUnreadable
      | some document => .ok ⟨envelope, payload, document⟩

end EnclaveRegistry.Attestation
