import EnclaveRegistry.Cbor.Writer
import EnclaveRegistry.Cose.Header

/-! # Signed envelopes

An envelope is an array of four: protected header octets, an unprotected header, a payload and a
signature. What is signed is built from the protected octets as they were received.
-/
namespace EnclaveRegistry.Cose

open Cbor (Item)

structure Envelope where
  headerOctets : Bytes
  payload : Option Bytes
  signature : Bytes
  deriving DecidableEq, Inhabited

def payload? : Item → Option (Option Bytes)
  | .bytes content _ => some (some content)
  | item => if item.isNull then some none else none

/-- The envelope that an item stands for. Headers inside headers are bounded by `fuel`. -/
def Envelope.ofItem? (fuel : Nat) : Item → Option Envelope
  | .array [.bytes octets _, header, content, .bytes signature _] => do
    let payload ← payload? content
    if isHeader fuel header && isProtected fuel octets then
      return ⟨octets, payload, signature⟩
    else none
  | _ => none

/-- Reads an envelope that nothing follows. No header is nested deeper than three times the
number of octets. -/
def Envelope.read (octets : Bytes) : Option Envelope := do
  let item ← Item.readWhole octets
  if item.isPlain 256 then Envelope.ofItem? (3 * octets.length + 1) item else none

def signedItem (headerOctets payload : Bytes) : Item :=
  .array [.text "Signature1" false, .bytes headerOctets false, .bytes [] false,
    .bytes payload false]

def signedOctets (headerOctets payload : Bytes) : Bytes := (signedItem headerOctets payload).write

end EnclaveRegistry.Cose
