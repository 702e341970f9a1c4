import EnclaveRegistry.Attestation.Mock
import EnclaveRegistry.Proofs.Result
import EnclaveRegistry.Proofs.Schema.Json

/-! # What a mock certificate is accepted for

Every text has one verdict: it is no certificate of this kind, its signature is not that of its own
key, or it proves that key. What a secret key issues for itself proves its public key, if its
signatures are valid, and each nonce makes another text.
-/
namespace EnclaveRegistry

namespace Curve.Ed25519

/-- Whether the signature that a secret key makes of a message is valid under its public key as that
is written. -/
def Signs (secret message : Bytes) : Prop :=
  ∃ key, PublicKey.ofOctets? (publicOctets secret) = some key ∧
    verify key message (sign secret message) = true

theorem signs_iff {secret message : Bytes} : Signs secret message ↔
    (PublicKey.ofOctets? (publicOctets secret)).any
      (fun key => verify key message (sign secret message)) = true := by
  unfold Signs
  cases PublicKey.ofOctets? (publicOctets secret) <;> simp

instance (secret message : Bytes) : Decidable (Signs secret message) :=
  decidable_of_iff _ signs_iff.symm

@[simp] theorem length_publicOctets (secret : Bytes) : (publicOctets secret).length = 32 := by
  simp [publicOctets, Edwards25519.Point.encode]

@[simp] theorem length_sign (secret message : Bytes) : (sign secret message).length = 64 := by
  simp [sign, Edwards25519.Point.encode]

theorem octets_of_ofOctets? {octets : Bytes} {key : PublicKey}
    (h : PublicKey.ofOctets? octets = some key) : key.octets = octets := by
  obtain ⟨point, -, rfl⟩ := Option.map_eq_some_iff.1 h
  rfl

end Curve.Ed25519

namespace Mock

open Curve.Ed25519 (PublicKey Signs publicOctets length_publicOctets length_sign)
open Schema (Described Fields Shape Writes ofJson shapeOf)

/-- Whether a text is a certificate of this kind with a key on the curve. -/
structure Presents (text : Bytes) (certificate : Certificate) (key : PublicKey) : Prop where
  read : ofJson Certificate text = .ok certificate
  moduleId : certificate.moduleId = "mock-enclave"
  length : certificate.publicKey.length = 32
  onCurve : PublicKey.ofOctets? certificate.publicKey = some key

/-- Whether a certificate is signed with its own key over the domain, the key and the nonce. -/
structure SelfSigned (certificate : Certificate) (key : PublicKey) : Prop where
  length : certificate.signature.length = 64
  valid : Curve.Ed25519.verify key
    (Bytes.ascii "keyreg-mock-attestation-v1" ++ certificate.publicKey ++
      Bytes.ofNatBE 8 certificate.nonce.toNat) certificate.signature = true

/-- What is wrong with a text that presents no key, the outermost first. -/
inductive Malformed (text : Bytes) : MalformedCause → Prop
  | unreadable {failure} (read : ofJson Certificate text = .error failure) :
    Malformed text (.unreadable failure)
  | otherModule {certificate} (read : ofJson Certificate text = .ok certificate)
      (moduleId : certificate.moduleId ≠ "mock-enclave") :
    Malformed text (.otherModule certificate.moduleId)
  | keyLength {certificate} (read : ofJson Certificate text = .ok certificate)
      (moduleId : certificate.moduleId = "mock-enclave")
      (length : certificate.publicKey.length ≠ 32) : Malformed text .keyLength
  | keyNotOnCurve {certificate} (read : ofJson Certificate text = .ok certificate)
      (moduleId : certificate.moduleId = "mock-enclave")
      (length : certificate.publicKey.length = 32)
      (offCurve : PublicKey.ofOctets? certificate.publicKey = none) :
    Malformed text .keyNotOnCurve

/-- The verdicts on a text. The signature matters only where a key is presented. -/
inductive Verdict (text : Bytes) : Except AttestationError Identity → Prop
  | malformed {cause} (malformed : Malformed text cause) :
    Verdict text (.error (.malformed cause))
  | unsigned {certificate key} (presented : Presents text certificate key)
      (unsigned : ¬ SelfSigned certificate key) : Verdict text (.error .badSignature)
  | proven {certificate key} (presented : Presents text certificate key)
      (signed : SelfSigned certificate key) : Verdict text (.ok ⟨.mock, certificate.publicKey⟩)

/-! ## Every text has one verdict -/

section

variable {text : Bytes}

theorem Presents.unique {first second : Certificate} {key other : PublicKey}
    (h : Presents text first key) (h' : Presents text second other) :
    first = second ∧ key = other := by
  have hcertificate : first = second := Except.ok.inj (h.read.symm.trans h'.read)
  subst hcertificate
  exact ⟨rfl, Option.some.inj (h.onCurve.symm.trans h'.onCurve)⟩

theorem Presents.not_malformed {certificate : Certificate} {key : PublicKey}
    {cause : MalformedCause} (h : Presents text certificate key) : ¬ Malformed text cause := by
  intro hmalformed
  cases hmalformed with
  | unreadable read => simp [h.read] at read
  | otherModule read moduleId =>
    cases h.read.symm.trans read
    exact moduleId h.moduleId
  | keyLength read _ length =>
    cases h.read.symm.trans read
    exact length h.length
  | keyNotOnCurve read _ _ offCurve =>
    cases h.read.symm.trans read
    simp [h.onCurve] at offCurve

theorem Malformed.unique {cause other : MalformedCause} (h : Malformed text cause)
    (h' : Malformed text other) : cause = other := by
  cases h with
  | unreadable read => cases h' <;> simp_all
  | otherModule read moduleId => cases h' <;> simp_all
  | keyLength read moduleId length => cases h' <;> simp_all
  | keyNotOnCurve read moduleId length offCurve => cases h' <;> simp_all

theorem Verdict.unique {outcome other : Except AttestationError Identity}
    (h : Verdict text outcome) (h' : Verdict text other) : outcome = other := by
  cases h with
  | malformed malformed =>
    cases h' with
    | malformed malformed' => rw [malformed.unique malformed']
    | unsigned presented => exact absurd malformed presented.not_malformed
    | proven presented => exact absurd malformed presented.not_malformed
  | unsigned presented unsigned =>
    cases h' with
    | malformed malformed => exact absurd malformed presented.not_malformed
    | unsigned => rfl
    | proven presented' signed =>
      obtain ⟨rfl, rfl⟩ := presented.unique presented'
      exact absurd signed unsigned
  | proven presented signed =>
    cases h' with
    | malformed malformed => exact absurd malformed presented.not_malformed
    | unsigned presented' unsigned =>
      obtain ⟨rfl, rfl⟩ := presented.unique presented'
      exact absurd signed unsigned
    | proven presented' =>
      obtain ⟨rfl, rfl⟩ := presented.unique presented'
      rfl

theorem selfSigned_iff {certificate : Certificate} {key : PublicKey} :
    SelfSigned certificate key ↔ certificate.signature.length = 64 ∧
      Curve.Ed25519.verify key (signingMessage certificate.publicKey certificate.nonce)
        certificate.signature = true :=
  ⟨fun h => ⟨h.length, h.valid⟩, fun h => ⟨h.1, h.2⟩⟩

theorem verdict_verify (text : Bytes) : Verdict text (verify text) := by
  cases hread : ofJson Certificate text with
  | error failure =>
    have hverify : verify text = .error (.malformed (.unreadable failure)) := by
      rw [verify, read, hread, Result.error_bind]
    rw [hverify]
    exact .malformed (.unreadable hread)
  | ok certificate =>
    by_cases hmodule : certificate.moduleId = moduleId
    · have hopened : read text = .ok certificate := by
        simp [read, hread, hmodule]
      by_cases hlength : certificate.publicKey.length = 32
      · cases honCurve : PublicKey.ofOctets? certificate.publicKey with
        | none =>
          have hverify : verify text = .error (.malformed .keyNotOnCurve) := by
            simp [verify, hopened, Certificate.key, hlength, honCurve]
          rw [hverify]
          exact .malformed (.keyNotOnCurve hread hmodule hlength honCurve)
        | some key =>
          have hpresented : Presents text certificate key := ⟨hread, hmodule, hlength, honCurve⟩
          have hkey : certificate.key = .ok key := by
            simp [Certificate.key, hlength, honCurve]
          by_cases hsigned : SelfSigned certificate key
          · have hverify : verify text = .ok ⟨.mock, certificate.publicKey⟩ := by
              rw [verify, hopened, Result.ok_bind, hkey, Result.ok_bind]
              exact if_pos (selfSigned_iff.1 hsigned)
            rw [hverify]
            exact .proven hpresented hsigned
          · have hverify : verify text = .error .badSignature := by
              rw [verify, hopened, Result.ok_bind, hkey, Result.ok_bind]
              exact if_neg (mt selfSigned_iff.2 hsigned)
            rw [hverify]
            exact .unsigned hpresented hsigned
      · have hverify : verify text = .error (.malformed .keyLength) := by
          simp [verify, hopened, Certificate.key, hlength]
        rw [hverify]
        exact .malformed (.keyLength hread hmodule hlength)
    · have hverify : verify text = .error (.malformed (.otherModule certificate.moduleId)) := by
        simp [verify, read, hread, hmodule]
      rw [hverify]
      exact .malformed (.otherModule hread hmodule)

theorem verify_eq_iff {outcome : Except AttestationError Identity} :
    verify text = outcome ↔ Verdict text outcome := by
  constructor
  · rintro rfl
    exact verdict_verify text
  · exact (verdict_verify text).unique

end

/-! ## Issued certificates -/

theorem unambiguous_certificate : (shapeOf Certificate).Unambiguous := by
  simp [shapeOf, Described.shape, Shape.Unambiguous, Fields.Unambiguous, Fields.names]

theorem ofJson_issueText (secret : Bytes) (nonce : UInt64) :
    ofJson Certificate (issueText secret nonce) = .ok (issue secret nonce) :=
  Writes.ofJson (.inl rfl) unambiguous_certificate

theorem issueText_inj {secret : Bytes} {first second : UInt64}
    (h : issueText secret first = issueText secret second) : first = second := by
  have hfirst := ofJson_issueText secret first
  rw [h, ofJson_issueText secret second] at hfirst
  exact (congrArg Certificate.nonce (Except.ok.inj hfirst)).symm

theorem verify_issueText {secret : Bytes} {nonce : UInt64}
    (h : Signs secret (signingMessage (publicOctets secret) nonce)) :
    verify (issueText secret nonce) = .ok ⟨.mock, publicOctets secret⟩ := by
  obtain ⟨key, hkey, hvalid⟩ := h
  have hpresented : Presents (issueText secret nonce) (issue secret nonce) key :=
    ⟨ofJson_issueText secret nonce, rfl, length_publicOctets secret, hkey⟩
  have hsigned : SelfSigned (issue secret nonce) key := ⟨length_sign secret _, hvalid⟩
  exact verify_eq_iff.2 (.proven hpresented hsigned)

theorem eq_mock_iff {identity : Identity} {key : Bytes} :
    identity = ⟨.mock, key⟩ ↔ identity.platform.name = "mock" ∧ identity.publicKey = key := by
  obtain ⟨platform, publicKey⟩ := identity
  cases platform <;> simp [Platform.name]

theorem verify_eq_ok_iff {text : Bytes} {identity : Identity} : verify text = .ok identity ↔
    ∃ certificate key, Presents text certificate key ∧ SelfSigned certificate key ∧
      identity = ⟨.mock, certificate.publicKey⟩ := by
  rw [verify_eq_iff]
  constructor
  · rintro (_ | _ | ⟨presented, signed⟩)
    exact ⟨_, _, presented, signed, rfl⟩
  · rintro ⟨certificate, key, presented, signed, rfl⟩
    exact .proven presented signed

/-- Whatever a secret key issues for itself is accepted as its public key, if its signature is valid
under that key, and another nonce makes another text for the same node. Any text at all is accepted
exactly if it presents a key that it is signed with, which is the one that it proves. All other
texts are refused: for their form, if they present no key, and else for their signature. -/
theorem accepted_iff_self_signed :
    (∀ secret nonce, Signs secret (signingMessage (publicOctets secret) nonce) →
      ∃ identity, verify (issueText secret nonce) = .ok identity ∧
        identity.platform.name = "mock" ∧ identity.publicKey = publicOctets secret ∧
        identity.publicKey.length = 32 ∧ identity.nodeId = ⟨publicOctets secret⟩) ∧
    (∀ secret first second, first ≠ second →
      issueText secret first ≠ issueText secret second) ∧
    (∀ text identity, verify text = .ok identity ↔
      ∃ certificate key, Presents text certificate key ∧ SelfSigned certificate key ∧
        key.octets = certificate.publicKey ∧
        identity.platform.name = "mock" ∧ identity.publicKey = certificate.publicKey) ∧
    (∀ text cause, verify text = .error (.malformed cause) ↔ Malformed text cause) ∧
    (∀ text, verify text = .error .badSignature ↔
      ∃ certificate key, Presents text certificate key ∧ ¬ SelfSigned certificate key) ∧
    ∀ text, (∃ identity, verify text = .ok identity) ∨
      (∃ cause, verify text = .error (.malformed cause)) ∨ verify text = .error .badSignature := by
  refine ⟨?_, ?_, ?_, ?_, ?_, ?_⟩
  · intro secret nonce hsigns
    exact ⟨_, verify_issueText hsigns, rfl, rfl, length_publicOctets secret, rfl⟩
  · intro secret first second hne
    exact mt issueText_inj hne
  · intro text identity
    rw [verify_eq_ok_iff]
    constructor
    · rintro ⟨certificate, key, hpresented, hsigned, hidentity⟩
      have hoctets := Curve.Ed25519.octets_of_ofOctets? hpresented.onCurve
      exact ⟨certificate, key, hpresented, hsigned, hoctets, eq_mock_iff.1 hidentity⟩
    · rintro ⟨certificate, key, hpresented, hsigned, -, hidentity⟩
      exact ⟨certificate, key, hpresented, hsigned, eq_mock_iff.2 hidentity⟩
  · intro text cause
    rw [verify_eq_iff]
    constructor
    · rintro ⟨malformed⟩
      exact malformed
    · exact .malformed
  · intro text
    rw [verify_eq_iff]
    constructor
    · rintro (_ | ⟨presented, unsigned⟩ | _)
      exact ⟨_, _, presented, unsigned⟩
    · rintro ⟨certificate, key, presented, unsigned⟩
      exact .unsigned presented unsigned
  · intro text
    generalize houtcome : verify text = outcome
    cases verify_eq_iff.1 houtcome with
    | @malformed cause => exact .inr (.inl ⟨cause, rfl⟩)
    | unsigned => exact .inr (.inr rfl)
    | proven => exact .inl ⟨_, rfl⟩

def sampleSecret : Bytes := List.replicate 32 7

theorem sampleSecret_signs :
    Signs sampleSecret (signingMessage (publicOctets sampleSecret) 0xffffffffffffffff) := by
  decide +kernel

theorem accepted_iff_self_signed_sample :
    Signs sampleSecret (signingMessage (publicOctets sampleSecret) 0xffffffffffffffff) ∧
    (∃ identity, verify (issueText sampleSecret 0xffffffffffffffff) = .ok identity ∧
      identity.publicKey = publicOctets sampleSecret ∧ identity.publicKey.length = 32 ∧
      identity.nodeId = ⟨publicOctets sampleSecret⟩) ∧
    (0 : UInt64) ≠ 0xffffffffffffffff ∧
    issueText sampleSecret 0 ≠ issueText sampleSecret 0xffffffffffffffff := by
  obtain ⟨hissued, hnonces, -⟩ := accepted_iff_self_signed
  obtain ⟨identity, hverify, -, hkey, hlength, hnode⟩ := hissued _ _ sampleSecret_signs
  have hne : (0 : UInt64) ≠ 0xffffffffffffffff := by decide
  exact ⟨sampleSecret_signs, ⟨identity, hverify, hkey, hlength, hnode⟩, hne,
    hnonces sampleSecret _ _ hne⟩

end Mock
end EnclaveRegistry
