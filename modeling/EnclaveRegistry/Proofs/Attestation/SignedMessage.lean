import EnclaveRegistry.Proofs.Attestation.Mock
import EnclaveRegistry.Proofs.Attestation.Nitro
import EnclaveRegistry.Proofs.Cbor.ByteString

/-! # What is signed determines who is trusted

The octets that a signature is verified over can be taken apart in one way only, and the identity is
read from one of their parts. A signature that was made for one identity is of no use in a
certificate that yields another one.
-/
namespace EnclaveRegistry

theorem Bytes.ofNatBE_toNat_inj {a b : UInt64} (h : ofNatBE 8 a.toNat = ofNatBE 8 b.toNat) :
    a = b := by
  have hfits (value : UInt64) : value.toNat % Nat.pow 256 8 = value.toNat :=
    Nat.mod_eq_of_lt value.toNat_lt
  have hvalue := congrArg toNatBE h
  rw [toNatBE_ofNatBE, toNatBE_ofNatBE, hfits, hfits] at hvalue
  exact UInt64.toNat_inj.1 hvalue

/-! ## Mock certificates -/

namespace Mock

/-- Whether a text is accepted as proof of an identity, its own signature being valid over a message
that is made of the domain, its key and its nonce. -/
def AcceptedOver (text : Bytes) (identity : Identity) (nonce : UInt64) (message : Bytes) : Prop :=
  ∃ certificate key, Presents text certificate key ∧ SelfSigned certificate key ∧
    identity = ⟨.mock, certificate.publicKey⟩ ∧ nonce = certificate.nonce ∧
    message = Bytes.ascii "keyreg-mock-attestation-v1" ++ certificate.publicKey ++
      Bytes.ofNatBE 8 certificate.nonce.toNat

variable {first second message : Bytes} {identity other : Identity} {nonce nonce' : UInt64}

theorem verify_eq_ok_iff_exists_acceptedOver {text : Bytes} :
    verify text = .ok identity ↔ ∃ nonce message, AcceptedOver text identity nonce message := by
  rw [verify_eq_ok_iff]
  constructor
  · rintro ⟨certificate, key, hpresents, hsigned, hidentity⟩
    exact ⟨_, _, certificate, key, hpresents, hsigned, hidentity, rfl, rfl⟩
  · rintro ⟨nonce, message, certificate, key, hpresents, hsigned, hidentity, -, -⟩
    exact ⟨certificate, key, hpresents, hsigned, hidentity⟩

theorem AcceptedOver.eq (h : AcceptedOver first identity nonce message)
    (h' : AcceptedOver second other nonce' message) : identity = other ∧ nonce = nonce' := by
  obtain ⟨a, key, hpresents, -, rfl, rfl, rfl⟩ := h
  obtain ⟨b, key', hpresents', -, rfl, rfl, hmessage⟩ := h'
  rw [List.append_assoc, List.append_assoc] at hmessage
  have hlength : a.publicKey.length = b.publicKey.length :=
    hpresents.length.trans hpresents'.length.symm
  obtain ⟨hkey, hnonce⟩ := List.append_inj (List.append_cancel_left hmessage) hlength
  exact ⟨congrArg (Identity.mk .mock) hkey, Bytes.ofNatBE_toNat_inj hnonce⟩

end Mock

/-! ## Nitro certificates -/

namespace Nitro

open Attestation (Statement)
open Cbor (Item)

/-- Whether a certificate is accepted as proof of an identity, the signature of its leaf being valid
over a message that is made of the protected header octets and the payload that were received. -/
def AcceptedOver (root certificate : Bytes) (identity : Identity)
    (headerOctets payload message : Bytes) : Prop :=
  verify root certificate = .ok identity ∧ ∃ statement leaf rest,
    Statement.read certificate = .ok statement ∧ ReceivedIn certificate statement ∧
    SignaturePath root statement.document.certificate statement.document.bundle (leaf :: rest) ∧
    SignedByLeaf statement leaf ∧ headerOctets = statement.envelope.headerOctets ∧
    payload = statement.payload ∧ message = (signatureStructure headerOctets payload).write

variable {root root' first second : Bytes} {identity other : Identity}
  {headerOctets headerOctets' payload payload' message : Bytes}

theorem exists_acceptedOver {certificate : Bytes} (h : verify root certificate = .ok identity) :
    ∃ headerOctets payload message,
      AcceptedOver root certificate identity headerOctets payload message := by
  obtain ⟨statement, hread, -⟩ := Result.bind_eq_ok_iff.1 h
  obtain ⟨leaf, rest, key, hpath, hsigned, -⟩ := (verify_of_read hread identity).1 h
  exact ⟨_, _, _, h, statement, leaf, rest, hread, receivedIn_of_read hread, hpath, hsigned,
    rfl, rfl, rfl⟩

theorem write_signatureStructure (headerOctets payload : Bytes) :
    (signatureStructure headerOctets payload).write =
      Cbor.writeHead 4 4 ++ ((Item.text "Signature1" false).write ++
        ((Item.bytes headerOctets false).write ++ ((Item.bytes [] false).write ++
          (Item.bytes payload false).write))) := by
  simp [signatureStructure, Item.write, Cbor.writeItems]

/-- The length of the header tells where it ends, and the payload is all that follows. -/
theorem signatureStructure_write_inj (h : headerOctets.length < UInt64.size)
    (h' : headerOctets'.length < UInt64.size)
    (heq : (signatureStructure headerOctets payload).write =
      (signatureStructure headerOctets' payload').write) :
    headerOctets = headerOctets' ∧ payload = payload' := by
  rw [write_signatureStructure, write_signatureStructure] at heq
  have hheader := List.append_cancel_left (List.append_cancel_left heq)
  obtain ⟨hoctets, hrest⟩ := Cbor.write_bytes_append_inj h h' hheader
  exact ⟨hoctets, Cbor.write_bytes_inj (List.append_cancel_left hrest)⟩

theorem ReceivedIn.length_le {certificate : Bytes} {statement : Statement}
    (h : ReceivedIn certificate statement) :
    statement.envelope.headerOctets.length ≤ certificate.length := by
  obtain ⟨_, _, _, _, hread⟩ := h
  exact Cbor.length_le_of_readWhole hread

theorem AcceptedOver.eq (hfirst : first.length < UInt64.size)
    (hsecond : second.length < UInt64.size)
    (h : AcceptedOver root first identity headerOctets payload message)
    (h' : AcceptedOver root' second other headerOctets' payload' message) :
    identity = other ∧ payload = payload' ∧ headerOctets = headerOctets' := by
  obtain ⟨hverify, a, leaf, rest, hread, hreceived, -, -, rfl, rfl, rfl⟩ := h
  obtain ⟨hverify', b, leaf', rest', hread', hreceived', -, -, rfl, rfl, hmessage⟩ := h'
  obtain ⟨hheader, hpayload⟩ := signatureStructure_write_inj
    (Nat.lt_of_le_of_lt hreceived.length_le hfirst)
    (Nat.lt_of_le_of_lt hreceived'.length_le hsecond) hmessage
  have hdocument : a.document = b.document := by
    have hread := document_of_read hread
    rw [hpayload, document_of_read hread'] at hread
    exact (Option.some.inj hread).symm
  obtain ⟨-, -, key, -, -, hkey, -, rfl⟩ := (verify_of_read hread identity).1 hverify
  obtain ⟨-, -, key', -, -, hkey', -, rfl⟩ := (verify_of_read hread' other).1 hverify'
  rw [hdocument, hkey'] at hkey
  exact ⟨congrArg (Identity.mk .nitro) (Option.some.inj hkey).symm, hpayload, hheader⟩

theorem AcceptedOver.of_read_eq
    (h : AcceptedOver root first identity headerOctets payload message)
    (hread : (Statement.read second).toOption = (Statement.read first).toOption) :
    AcceptedOver root second identity headerOctets payload message := by
  obtain ⟨hverify, statement, leaf, rest, hstatement, -, hpath, hsigned, hmessage⟩ := h
  rw [hstatement] at hread
  have hstatement' : Statement.read second = .ok statement :=
    Result.toOption_eq_some_iff.1 hread
  have hverify' := (verify_of_read hstatement' identity).2
    ((verify_of_read hstatement identity).1 hverify)
  exact ⟨hverify', statement, leaf, rest, hstatement', receivedIn_of_read hstatement', hpath,
    hsigned, hmessage⟩

end Nitro

/-- Every certificate that is accepted is accepted for a signature over a message, and two
certificates with equal messages prove one identity. The messages tell the nonces of mock
certificates, and the payloads and the protected headers of Nitro certificates, whatever roots they
are traced to. The latter are byte strings in memory, shorter than `2 ^ 64` octets. -/
theorem Verifier.signed_octets_determine_identity :
    (∀ text identity, Mock.verifier.verify text = .ok identity ↔
      ∃ nonce message, Mock.AcceptedOver text identity nonce message) ∧
    (∀ first second identity other nonce nonce' message,
      Mock.AcceptedOver first identity nonce message →
      Mock.AcceptedOver second other nonce' message → identity = other ∧ nonce = nonce') ∧
    (∀ root certificate identity, (Nitro.verifier root).verify certificate = .ok identity ↔
      ∃ headerOctets payload message,
        Nitro.AcceptedOver root certificate identity headerOctets payload message) ∧
    ∀ root root' first second identity other headerOctets headerOctets' payload payload' message,
      first.length < UInt64.size → second.length < UInt64.size →
      Nitro.AcceptedOver root first identity headerOctets payload message →
      Nitro.AcceptedOver root' second other headerOctets' payload' message →
        identity = other ∧ payload = payload' ∧ headerOctets = headerOctets' := by
  refine ⟨fun text identity => Mock.verify_eq_ok_iff_exists_acceptedOver,
    fun _ _ _ _ _ _ _ h h' => h.eq h', fun root certificate identity => ?_,
    fun _ _ _ _ _ _ _ _ _ _ _ hfirst hsecond h h' => h.eq hfirst hsecond h'⟩
  constructor
  · exact Nitro.exists_acceptedOver
  · rintro ⟨_, _, _, hverify, -⟩
    exact hverify

/-! ## Samples -/

namespace Nitro

open Attestation (Statement)
open Cbor (Item)

def sampleNote : List (Item × Item) := [(.text "note" false, .unsigned 1)]

theorem read_sampleNote : (Statement.read (sampleCertificate sampleNote)).toOption =
    (Statement.read (sampleCertificate [])).toOption := by
  decide +kernel

end Nitro

theorem Verifier.signed_octets_determine_identity_sample :
    (∃ identity message,
      Mock.AcceptedOver (Mock.issueText Mock.sampleSecret 0xffffffffffffffff)
        ⟨.mock, Curve.Ed25519.publicOctets Mock.sampleSecret⟩ 0xffffffffffffffff message ∧
      Mock.AcceptedOver (Schema.toPrettyJson (Mock.issue Mock.sampleSecret 0xffffffffffffffff))
        identity 0xffffffffffffffff message ∧
      identity = ⟨.mock, Curve.Ed25519.publicOctets Mock.sampleSecret⟩) ∧
    ∃ identity headerOctets payload message,
      Nitro.AcceptedOver Nitro.sampleRoot (Nitro.sampleCertificate [])
        ⟨.nitro, List.replicate 32 170⟩ headerOctets payload message ∧
      Nitro.AcceptedOver Nitro.sampleRoot (Nitro.sampleCertificate Nitro.sampleNote) identity
        headerOctets payload message ∧
      identity = ⟨.nitro, List.replicate 32 170⟩ := by
  obtain ⟨-, hmock, -, hnitro⟩ := signed_octets_determine_identity
  constructor
  · obtain ⟨key, hkey, hvalid⟩ := Mock.sampleSecret_signs
    have hissued {text : Bytes} (htext : Schema.Writes text
        (Mock.issue Mock.sampleSecret 0xffffffffffffffff)) : Mock.AcceptedOver text
          ⟨.mock, Curve.Ed25519.publicOctets Mock.sampleSecret⟩ 0xffffffffffffffff
          (Mock.signingMessage (Curve.Ed25519.publicOctets Mock.sampleSecret)
            0xffffffffffffffff) :=
      ⟨Mock.issue Mock.sampleSecret 0xffffffffffffffff, key,
        ⟨htext.ofJson Mock.unambiguous_certificate, rfl,
          Curve.Ed25519.length_publicOctets Mock.sampleSecret, hkey⟩,
        ⟨Curve.Ed25519.length_sign Mock.sampleSecret _, hvalid⟩, rfl, rfl, rfl⟩
    have hcompact := hissued (.inl rfl)
    have hpretty := hissued (.inr rfl)
    exact ⟨_, _, hcompact, hpretty, (hmock _ _ _ _ _ _ _ hpretty hcompact).1⟩
  · have hverify := Result.toOption_eq_some_iff.1 Nitro.verify_sampleCertificate
    obtain ⟨headerOctets, payload, message, hfirst⟩ := Nitro.exists_acceptedOver hverify
    have hsecond := hfirst.of_read_eq Nitro.read_sampleNote
    have hlength : (Nitro.sampleCertificate []).length < UInt64.size := by decide +kernel
    have hlength' : (Nitro.sampleCertificate Nitro.sampleNote).length < UInt64.size := by
      decide +kernel
    exact ⟨_, _, _, _, hfirst, hsecond,
      (hnitro _ _ _ _ _ _ _ _ _ _ _ hlength' hlength hsecond hfirst).1⟩

end EnclaveRegistry
