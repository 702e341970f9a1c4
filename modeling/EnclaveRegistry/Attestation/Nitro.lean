import EnclaveRegistry.Attestation.Document
import EnclaveRegistry.Attestation.Identity
import EnclaveRegistry.Curve.Ecdsa
import EnclaveRegistry.Text.Base64
import EnclaveRegistry.X509.Certificate

/-! # Certificates of Nitro enclaves

An attestation document is trusted when its leaf certificate leads through the bundle to a given
root, each certificate signed by the next and the root by itself, and when the envelope is signed
by the leaf. Times of validity are not looked at, so that every replica comes to the same answer at
any time.
-/
namespace EnclaveRegistry.Nitro

open Attestation (Statement)
open Curve.Ecdsa (Signature)

/-- The signature that the DER form of two natural numbers stands for, if it is one: a sequence of
two integers of at most 48 octets each. -/
def signatureParts? (octets : Bytes) : Option (Nat × Nat) := do
  match ← (← Der.Element.readWhole octets).inside? Der.sequenceTag with
  | [r, s] =>
    if r.tag ≠ Der.integerTag ∨ s.tag ≠ Der.integerTag then none else
    let r ← Der.natural? r.content
    let s ← Der.natural? s.content
    if r < 1 <<< 384 ∧ s < 1 <<< 384 then return (r, s) else none
  | _ => none

def subjectKey? (certificate : X509.Certificate) : Option Curve.P384.Point :=
  Curve.P384.decode? certificate.subjectKey

def checkIssued (child parent : X509.Certificate) : Except LinkFault Unit :=
  match subjectKey? parent with
  | none => .error .badKey
  | some key =>
    match signatureParts? child.signature.octets with
    | none => .error .badSignatureForm
    | some (r, s) =>
      match Signature.ofParts? r s with
      | none => .error .badSignature
      | some signature =>
        if Curve.Ecdsa.verify key child.signedOctets signature then .ok ()
        else .error .badSignature

/-- The chain from a leaf through a bundle to a root. The bundle lists what is nearest to the root
first; copies of the root in it are dropped. -/
def chain (root leaf : Bytes) (bundle : List Bytes) : List Bytes :=
  leaf :: (bundle.reverse.filter fun octets => octets != root) ++ [root]

/-- Reads the certificates of a chain; `index` counts those before them. -/
def readChain : (index : Nat) → List Bytes → Except AttestationError (List X509.Certificate)
  | _, [] => .ok []
  | index, octets :: rest =>
    match X509.Certificate.read octets with
    | none => .error (.certificateUnreadable (.unreadable index))
    | some certificate => do return certificate :: (← readChain (index + 1) rest)

/-- Checks every link of a chain and at last the root against itself; `index` counts the
certificates before them. -/
def checkLinks : (index : Nat) → List X509.Certificate → Except ChainFault Unit
  | _, [] => .ok ()
  | _, [root] =>
    match checkIssued root root with
    | .ok _ => .ok ()
    | .error fault => .error (.root fault)
  | index, child :: parent :: rest =>
    match checkIssued child parent with
    | .ok _ => checkLinks (index + 1) (parent :: rest)
    | .error fault => .error (.link index fault)

def checkChain (root leaf : Bytes) (bundle : List Bytes) : Except AttestationError Unit := do
  match checkLinks 0 (← readChain 0 (chain root leaf bundle)) with
  | .ok _ => return ()
  | .error fault => .error (.chainBroken fault)

def leafKey (leaf : Bytes) : Except AttestationError Curve.P384.Point :=
  match (X509.Certificate.read leaf).bind subjectKey? with
  | some key => .ok key
  | none => .error (.certificateUnreadable .leafKey)

def isSigned (statement : Statement) (key : Curve.P384.Point) : Bool :=
  match Signature.ofOctets? statement.envelope.signature with
  | some signature =>
    Curve.Ecdsa.verify key (Cose.signedOctets statement.envelope.headerOctets statement.payload)
      signature
  | none => false

def publicKey (statement : Statement) : Except AttestationError Bytes :=
  match statement.document.publicKey with
  | some (octet :: rest) => .ok (octet :: rest)
  | _ => .error (.missingField "public_key")

def verify (root certificate : Bytes) : Except AttestationError Identity := do
  let statement ← Statement.read certificate
  checkChain root statement.document.certificate statement.document.bundle
  let key ← leafKey statement.document.certificate
  if isSigned statement key then
    return ⟨.nitro, ← publicKey statement⟩
  else .error .badSignature

def verifier (root : Bytes) : Verifier := ⟨.nitro, verify root⟩

def vendorRootText : String :=
    "MIICETCCAZagAwIBAgIRAPkxdWgbkK/hHUbMtOTn+FYwCgYIKoZIzj0EAwMwSTELMAkGA1UEBhMCVVMxDzANBgNV" ++
    "BAoMBkFtYXpvbjEMMAoGA1UECwwDQVdTMRswGQYDVQQDDBJhd3Mubml0cm8tZW5jbGF2ZXMwHhcNMTkxMDI4MTMy" ++
    "ODA1WhcNNDkxMDI4MTQyODA1WjBJMQswCQYDVQQGEwJVUzEPMA0GA1UECgwGQW1hem9uMQwwCgYDVQQLDANBV1Mx" ++
    "GzAZBgNVBAMMEmF3cy5uaXRyby1lbmNsYXZlczB2MBAGByqGSM49AgEGBSuBBAAiA2IABPwCVOumCMHzaHDimtqQ" ++
    "vkY4MpJzbolL//Zy2YlES1BR5TSksfbb48C8WBoyt7F2Bw7eEtaaP+ohG2bnUs990d0JX28TcPQXCEPZ3BABIeTP" ++
    "YwEoCWZEh8l5YoQwTcU/9KNCMEAwDwYDVR0TAQH/BAUwAwEB/zAdBgNVHQ4EFgQUkCW1DdkFR+eWw5b6cp3Pmanf" ++
    "S5YwDgYDVR0PAQH/BAQDAgGGMAoGCCqGSM49BAMDA2kAMGYCMQCjfy+Rocm9Xue4YnwWmNJVA44fA0P5W2OpYow9" ++
    "OYCVRaEevL8uO1XYru5xtMPWrfMCMQCi85sWBbJwKKXdS6BptQFuZbT73o/gBh1qUxl/nNr12UO8Yfwr6wPLb+6N" ++
    "IwLz3/Y="

def vendorRoot : Bytes := (Base64.decode (Bytes.ascii vendorRootText)).toOption.getD []

end EnclaveRegistry.Nitro
