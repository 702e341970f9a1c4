import EnclaveRegistry.Attestation.Nitro
import EnclaveRegistry.Proofs.Result
import Mathlib.Data.List.Chain
import Mathlib.Data.List.Forall2

/-! # What a Nitro certificate is accepted for

A certificate is accepted exactly if a path of signatures leads from its own signature through the
leaf and the bundle to the trusted root, and it then proves the public key that it was signed with.
-/
namespace EnclaveRegistry.Nitro

open Attestation (Document Statement)
open Cbor (Item)
open Curve.Ecdsa (Signature)
open Result (bind_eq_ok_iff)

/-- Whether a certificate has a signature over its re-encoded content that is valid under the point
that the key bits of another one's subject stand for. -/
def SignedBy (child parent : X509.Certificate) : Prop :=
  ∃ key r s signature, Curve.P384.decode? parent.content.publicKey.key.octets = some key ∧
    signatureParts? child.signature.octets = some (r, s) ∧
    Signature.ofParts? r s = some signature ∧
    Curve.Ecdsa.verify key child.content.toElement.write signature = true

/-- The octets of the certificates from a leaf to a root: behind the leaf, what a bundle lists
besides the root, the last first. -/
def path (root leaf : Bytes) (bundle : List Bytes) : List Bytes :=
  leaf :: ((bundle.filter fun octets => octets != root).reverse ++ [root])

/-- Certificates that lead from a leaf to a root: they are what the octets of the path stand for,
each is signed by the next one and the root by itself. -/
structure SignaturePath (root leaf : Bytes) (bundle : List Bytes)
    (certificates : List X509.Certificate) : Prop where
  read : List.Forall₂ (fun octets certificate => X509.Certificate.read octets = some certificate)
    (path root leaf bundle) certificates
  linked : certificates.IsChain SignedBy
  rooted : ∀ certificate ∈ certificates.getLast?, SignedBy certificate certificate

/-- What the signature of an envelope is made over: its protected header octets, no external data,
and its payload. -/
def signatureStructure (headerOctets payload : Bytes) : Item :=
  .array [.text "Signature1" false, .bytes headerOctets false, .bytes [] false,
    .bytes payload false]

def SignedByLeaf (statement : Statement) (leaf : X509.Certificate) : Prop :=
  ∃ key signature, Curve.P384.decode? leaf.content.publicKey.key.octets = some key ∧
    Signature.ofOctets? statement.envelope.signature = some signature ∧
    Curve.Ecdsa.verify key
      (signatureStructure statement.envelope.headerOctets statement.payload).write signature = true

/-- Whether the protected header octets, the payload and the signature of a statement are those that
stand in a certificate. -/
def ReceivedIn (certificate : Bytes) (statement : Statement) : Prop :=
  ∃ header headerPieces payloadPieces signaturePieces, Item.readWhole certificate = some (.array
    [.bytes statement.envelope.headerOctets headerPieces, header,
      .bytes statement.payload payloadPieces,
      .bytes statement.envelope.signature signaturePieces])

/-! ## Links -/

theorem subjectKey?_eq (certificate : X509.Certificate) :
    subjectKey? certificate = Curve.P384.decode? certificate.content.publicKey.key.octets := rfl

theorem signedOctets_eq (certificate : X509.Certificate) :
    certificate.signedOctets = certificate.content.toElement.write := rfl

theorem checkIssued_eq_ok_iff {child parent : X509.Certificate} :
    checkIssued child parent = .ok () ↔ SignedBy child parent := by
  unfold checkIssued SignedBy
  rw [subjectKey?_eq, signedOctets_eq]
  cases hkey : Curve.P384.decode? parent.content.publicKey.key.octets with
  | none => simp
  | some key =>
    cases hparts : signatureParts? child.signature.octets with
    | none => simp
    | some parts =>
      obtain ⟨r, s⟩ := parts
      cases hsignature : Signature.ofParts? r s with
      | none => simp [hsignature]
      | some signature => simp [hsignature]

theorem checkLinks_eq_ok_iff {index : Nat} {certificates : List X509.Certificate} :
    checkLinks index certificates = .ok () ↔ certificates.IsChain SignedBy ∧
      ∀ certificate ∈ certificates.getLast?, SignedBy certificate certificate := by
  induction certificates generalizing index with
  | nil => simp [checkLinks]
  | cons child rest ih =>
    cases rest with
    | nil =>
      rw [checkLinks, List.getLast?_singleton]
      have hself : checkIssued child child = .ok () ↔ SignedBy child child := checkIssued_eq_ok_iff
      cases hcheck : checkIssued child child <;> simpa [hcheck] using hself
    | cons parent rest =>
      have hrest := @ih (index + 1)
      rw [checkLinks, List.isChain_cons_cons, List.getLast?_cons_cons, and_assoc, ← hrest,
        ← checkIssued_eq_ok_iff]
      cases checkIssued child parent <;> simp

theorem readChain_eq_ok_iff {index : Nat} {chain : List Bytes}
    {certificates : List X509.Certificate} :
    readChain index chain = .ok certificates ↔
      List.Forall₂ (fun octets certificate => X509.Certificate.read octets = some certificate)
        chain certificates := by
  induction chain generalizing index certificates with
  | nil => simp [readChain, eq_comm]
  | cons octets rest ih =>
    rw [readChain, List.forall₂_cons_left_iff]
    cases hread : X509.Certificate.read octets with
    | none => simp
    | some certificate =>
      simp only [bind_eq_ok_iff, ih, Result.pure_eq_ok, Except.ok.injEq]
      constructor
      · rintro ⟨others, hothers, rfl⟩
        exact ⟨certificate, others, rfl, hothers, rfl⟩
      · rintro ⟨_, others, ⟨⟩, hothers, rfl⟩
        exact ⟨others, hothers, rfl⟩

theorem chain_eq_path (root leaf : Bytes) (bundle : List Bytes) :
    chain root leaf bundle = path root leaf bundle := by
  simp [chain, path, List.filter_reverse]

theorem checkChain_eq_ok_iff {root leaf : Bytes} {bundle : List Bytes} :
    checkChain root leaf bundle = .ok () ↔
      ∃ certificates, SignaturePath root leaf bundle certificates := by
  rw [checkChain, bind_eq_ok_iff, chain_eq_path]
  constructor
  · rintro ⟨certificates, hread, hlinks⟩
    cases hcheck : checkLinks 0 certificates with
    | error fault => simp [hcheck] at hlinks
    | ok =>
      obtain ⟨hlinked, hrooted⟩ := checkLinks_eq_ok_iff.1 hcheck
      exact ⟨certificates, readChain_eq_ok_iff.1 hread, hlinked, hrooted⟩
  · rintro ⟨certificates, hpath⟩
    refine ⟨certificates, readChain_eq_ok_iff.2 hpath.read, ?_⟩
    rw [checkLinks_eq_ok_iff.2 ⟨hpath.linked, hpath.rooted⟩]
    rfl

theorem SignaturePath.exists_cons {root leaf : Bytes} {bundle : List Bytes}
    {certificates : List X509.Certificate} (h : SignaturePath root leaf bundle certificates) :
    ∃ first rest, certificates = first :: rest ∧ X509.Certificate.read leaf = some first := by
  obtain ⟨first, rest, hfirst, -, rfl⟩ := List.forall₂_cons_left_iff.1 h.read
  exact ⟨first, rest, rfl, hfirst⟩

/-! ## Statements -/

theorem leafKey_eq_ok_iff {leaf : Bytes} {certificate : X509.Certificate}
    {key : Curve.P384.Point} (h : X509.Certificate.read leaf = some certificate) :
    leafKey leaf = .ok key ↔
      Curve.P384.decode? certificate.content.publicKey.key.octets = some key := by
  rw [leafKey, h, Option.bind_some, subjectKey?_eq]
  cases Curve.P384.decode? certificate.content.publicKey.key.octets <;> simp

theorem isSigned_eq_true_iff {statement : Statement} {key : Curve.P384.Point} :
    isSigned statement key = true ↔
      ∃ signature, Signature.ofOctets? statement.envelope.signature = some signature ∧
        Curve.Ecdsa.verify key
          (signatureStructure statement.envelope.headerOctets statement.payload).write
            signature = true := by
  rw [isSigned, Cose.signedOctets]
  cases Signature.ofOctets? statement.envelope.signature with
  | none => simp
  | some signature => simp [Cose.signedItem, signatureStructure]

theorem publicKey_eq_ok_iff {statement : Statement} {key : Bytes} :
    publicKey statement = .ok key ↔ statement.document.publicKey = some key ∧ key ≠ [] := by
  unfold publicKey
  split
  · rename_i octet rest hkey
    rw [hkey]
    constructor
    · rintro ⟨⟩
      exact ⟨rfl, List.cons_ne_nil octet rest⟩
    · rintro ⟨⟨⟩, -⟩
      rfl
  · rename_i hnone
    refine ⟨nofun, ?_⟩
    rintro ⟨hkey, hne⟩
    cases key with
    | nil => exact absurd rfl hne
    | cons octet rest => exact absurd hkey (hnone octet rest)

theorem payload?_eq_some_some {item : Item} {payload : Bytes}
    (h : Cose.payload? item = some (some payload)) : ∃ pieces, item = .bytes payload pieces := by
  unfold Cose.payload? at h
  split at h
  · cases h
    exact ⟨_, rfl⟩
  · split at h <;> cases h

theorem envelope_of_ofItem? {fuel : Nat} {item : Item} {envelope : Cose.Envelope}
    (h : Cose.Envelope.ofItem? fuel item = some envelope) :
    ∃ header content headerPieces signaturePieces,
      item = .array [.bytes envelope.headerOctets headerPieces, header, content,
        .bytes envelope.signature signaturePieces] ∧
      Cose.payload? content = some envelope.payload := by
  unfold Cose.Envelope.ofItem? at h
  split at h
  · rename_i octets headerPieces header content signature signaturePieces
    obtain ⟨payload, hpayload, h⟩ := Option.bind_eq_some_iff.1 h
    split at h
    · cases h
      exact ⟨header, content, headerPieces, signaturePieces, rfl, hpayload⟩
    · cases h
  · cases h

theorem receivedIn_of_read {certificate : Bytes} {statement : Statement}
    (h : Statement.read certificate = .ok statement) : ReceivedIn certificate statement := by
  unfold Statement.read at h
  cases henvelope : Cose.Envelope.read certificate with
  | none => simp [henvelope] at h
  | some envelope =>
    rw [henvelope] at h
    cases hpayload : envelope.payload with
    | none => simp [hpayload] at h
    | some payload =>
      cases hdocument : Attestation.Document.read payload with
      | none => simp [hpayload, hdocument] at h
      | some document =>
        simp only [hpayload, hdocument] at h
        cases h
        obtain ⟨item, hitem, henvelope⟩ := Option.bind_eq_some_iff.1 henvelope
        split at henvelope
        · obtain ⟨header, content, headerPieces, signaturePieces, rfl, hcontent⟩ :=
            envelope_of_ofItem? henvelope
          rw [hpayload] at hcontent
          obtain ⟨payloadPieces, rfl⟩ := payload?_eq_some_some hcontent
          exact ⟨header, headerPieces, payloadPieces, signaturePieces, hitem⟩
        · cases henvelope

theorem document_of_read {certificate : Bytes} {statement : Statement}
    (h : Statement.read certificate = .ok statement) :
    Document.read statement.payload = some statement.document := by
  unfold Statement.read at h
  split at h
  · cases h
  split at h
  · cases h
  split at h
  · cases h
  · rename_i hdocument
    cases h
    exact hdocument

theorem eq_nitro_iff {identity : Identity} {key : Bytes} :
    identity = ⟨.nitro, key⟩ ↔
      identity.platform.name = "aws_nitro" ∧ identity.publicKey = key := by
  obtain ⟨platform, publicKey⟩ := identity
  cases platform <;> simp [Platform.name]

theorem verify_of_read {root certificate : Bytes} {statement : Statement}
    (h : Statement.read certificate = .ok statement) (identity : Identity) :
    verify root certificate = .ok identity ↔
      ∃ leaf rest key,
        SignaturePath root statement.document.certificate statement.document.bundle
          (leaf :: rest) ∧ SignedByLeaf statement leaf ∧
        statement.document.publicKey = some key ∧ key ≠ [] ∧ identity = ⟨.nitro, key⟩ := by
  rw [verify, h, Result.ok_bind, bind_eq_ok_iff]
  constructor
  · rintro ⟨⟨⟩, hchain, hrest⟩
    obtain ⟨certificates, hpath⟩ := checkChain_eq_ok_iff.1 hchain
    obtain ⟨leaf, rest, rfl, hread⟩ := hpath.exists_cons
    obtain ⟨leafKey, hkey, hrest⟩ := bind_eq_ok_iff.1 hrest
    split at hrest
    · rename_i hsigned
      obtain ⟨signature, hsignature, hvalid⟩ := isSigned_eq_true_iff.1 hsigned
      obtain ⟨key, hpublic, hidentity⟩ := bind_eq_ok_iff.1 hrest
      obtain ⟨hsome, hne⟩ := publicKey_eq_ok_iff.1 hpublic
      refine ⟨leaf, rest, key, hpath, ?_, hsome, hne, (Except.ok.inj hidentity).symm⟩
      exact ⟨leafKey, signature, (leafKey_eq_ok_iff hread).1 hkey, hsignature, hvalid⟩
    · cases hrest
  · rintro ⟨leaf, rest, key, hpath, ⟨leafKey, signature, hkey, hsignature, hvalid⟩, hsome, hne, rfl⟩
    obtain ⟨first, others, hfirst, hread⟩ := hpath.exists_cons
    obtain ⟨rfl, rfl⟩ := List.cons.inj hfirst
    refine ⟨(), checkChain_eq_ok_iff.2 ⟨_, hpath⟩, ?_⟩
    rw [(leafKey_eq_ok_iff hread).2 hkey, Result.ok_bind,
      if_pos (isSigned_eq_true_iff.2 ⟨signature, hsignature, hvalid⟩),
      publicKey_eq_ok_iff.2 ⟨hsome, hne⟩, Result.ok_bind, Result.pure_eq_ok]

/-! ## A sample -/

/-- An X.509 certificate of a key, signed by whoever has the name "root". -/
def sampleIssued (subject : String) (key signature : Bytes) : Bytes :=
  Bytes.ofNatBE 20 0x308201473081cea003020102020107300a06082a ++
    Bytes.ofNatBE 20 0x8648ce3d040303300f310d300b06035504030c04 ++
    Bytes.ascii "root" ++
    Bytes.ofNatBE 23 0x301e170d3230303130313030303030305a170d34393031 ++
    Bytes.ofNatBE 22 0x30313030303030305a300f310d300b06035504030c04 ++
    Bytes.ascii subject ++
    Bytes.ofNatBE 24 0x3076301006072a8648ce3d020106052b8104002203620004 ++ key ++
    Bytes.ofNatBE 15 0x300a06082a8648ce3d040303036800 ++ signature

def sampleRootKey : Bytes :=
  Bytes.ofNatBE 32 0x0e2acb569bbde377390152d76a73eb90023fece8a52b392c7e35238a1cdead41 ++
    Bytes.ofNatBE 32 0x5bb2544da4500f1979d633871bcd4b782816ddcfbc7e6664ca9efcb7acac3973 ++
    Bytes.ofNatBE 32 0xd25b08e578ed6294cda5deeafa34668630fffcbc9ae4301dc5a38f6027a90793

def sampleRoot : Bytes :=
  sampleIssued "root" sampleRootKey
    (Bytes.ofNatBE 35 0x30650231008b4be159709eb06ebc2edcefeea186440b11725e049e8fc32625616d7a68 ++
      Bytes.ofNatBE 35 0xdab3857c4fe8bcfedbdacfa8c82259ff40f602302e6006d104682e73474aefe25aaa33 ++
      Bytes.ofNatBE 33 0xefcdff033fa3e625b15cc5fd2f5c1334b751a1982e46712f08df6665c49de44d35)

def sampleLeaf : Bytes :=
  sampleIssued "leaf"
    (Bytes.ofNatBE 32 0xc8f02ff82dd478ec1f5221deffa98b1948e6364ade8e2d1bc2c865b5129e9ea7 ++
      Bytes.ofNatBE 32 0x317e529b3983506d622b13164fc0523c57daedac6e00e4251113cfbf18b1649a ++
      Bytes.ofNatBE 32 0x1eb55204be14877b5218d58de7ff8a1ce1eb9bd8a5c74c54420e462fe304fec3)
    (Bytes.ofNatBE 35 0x3065023061ceff243452e20ccd369b38d9bd1e9e8fead3008f0bf932485f88e7deacbb ++
      Bytes.ofNatBE 35 0x98f024ee0c8059ee8ae0080fba10005da8023100ee0dd227b11736e7805e951ea7d05f ++
      Bytes.ofNatBE 33 0x6ad9c9f3eb4ccbaeb2d43f78042e761423d4f9100430a1a83622deaab10775f454)

def samplePayload : Bytes :=
  (Item.map [(.text "module_id" false, .text "" false), (.text "digest" false, .text "" false),
    (.text "timestamp" false, .unsigned 0), (.text "pcrs" false, .map []),
    (.text "certificate" false, .bytes sampleLeaf false), (.text "cabundle" false, .array []),
    (.text "public_key" false, .bytes (List.replicate 32 170) false),
    (.text "user_data" false, .simple 22), (.text "nonce" false, .simple 22)]).write

def sampleCertificate (unprotected : List (Item × Item)) : Bytes :=
  (Item.array [.bytes (Item.map [(.unsigned 1, .negative 34)]).write false, .map unprotected,
    .bytes samplePayload false,
    .bytes (Bytes.ofNatBE 32 0x9985d7bfb8dd6f4444d668e330cdc121d843efa97470f8892bd253e66f7bb067 ++
      Bytes.ofNatBE 32 0x8f2b76e5b09c9cd73c6ae3c2be5e7c26a4f20f4e751b3a249f07a46bacac3d4e ++
      Bytes.ofNatBE 32 0xec20274d907e42611dfde895fcd45c9f208e4fba3ac6cf36f55ef20bd80e9ba0)
      false]).write

theorem verify_sampleCertificate : (verify sampleRoot (sampleCertificate [])).toOption =
    some ⟨.nitro, List.replicate 32 170⟩ := by
  decide +kernel

theorem document_sampleCertificate : (Statement.read (sampleCertificate [])).toOption.map
    (fun statement => (statement.document.certificate, statement.document.bundle)) =
      some (sampleLeaf, []) := by
  decide +kernel

theorem exists_samplePath : ∃ statement leaf root,
    Statement.read (sampleCertificate []) = .ok statement ∧
    statement.document.certificate = sampleLeaf ∧ statement.document.bundle = [] ∧
    statement.document.publicKey = some (List.replicate 32 170) ∧
    SignaturePath sampleRoot sampleLeaf [] [leaf, root] ∧ SignedByLeaf statement leaf := by
  have haccepted := Result.toOption_eq_some_iff.1 verify_sampleCertificate
  obtain ⟨statement, hread, -⟩ := bind_eq_ok_iff.1 haccepted
  obtain ⟨leaf, rest, key, hpath, hsigned, hkey, -, hidentity⟩ :=
    (verify_of_read hread _).1 haccepted
  cases hidentity
  have hdocument := document_sampleCertificate
  rw [hread] at hdocument
  obtain ⟨hleaf, hbundle⟩ := Prod.mk.inj (Option.some.inj hdocument)
  rw [hleaf, hbundle] at hpath
  obtain ⟨root, rfl⟩ : ∃ root, rest = [root] := by
    have hlength := hpath.read.length_eq
    exact List.length_eq_one_iff.1 (by simpa [path] using hlength.symm)
  exact ⟨statement, leaf, root, hread, hleaf, hbundle, hkey, hpath, hsigned⟩

/-! ## Acceptance -/

/-- A certificate is accepted under a root exactly if it reads as a statement whose certificates
lead to that root, whose octets as they were received are signed with the leaf's key, and whose
payload has a public key; it then proves that key. One that does not read is refused for that
reason. -/
theorem accepted_iff_signature_path (root certificate : Bytes) :
    (∀ identity, verify root certificate = .ok identity ↔
      ∃ statement leaf rest key, Statement.read certificate = .ok statement ∧
        ReceivedIn certificate statement ∧
        Document.read statement.payload = some statement.document ∧
        SignaturePath root statement.document.certificate statement.document.bundle
          (leaf :: rest) ∧
        SignedByLeaf statement leaf ∧
        statement.document.publicKey = some key ∧ key ≠ [] ∧
        identity.platform.name = "aws_nitro" ∧ identity.publicKey = key) ∧
    ∀ error, Statement.read certificate = .error error →
      verify root certificate = .error error := by
  refine ⟨fun identity => ?_, fun error herror => ?_⟩
  · constructor
    · intro hverify
      obtain ⟨statement, hread, -⟩ := bind_eq_ok_iff.1 hverify
      obtain ⟨leaf, rest, key, hpath, hsigned, hsome, hne, hidentity⟩ :=
        (verify_of_read hread identity).1 hverify
      exact ⟨statement, leaf, rest, key, hread, receivedIn_of_read hread, document_of_read hread,
        hpath, hsigned, hsome, hne, eq_nitro_iff.1 hidentity⟩
    · rintro ⟨statement, leaf, rest, key, hread, -, -, hpath, hsigned, hsome, hne, hidentity⟩
      exact (verify_of_read hread identity).2
        ⟨leaf, rest, key, hpath, hsigned, hsome, hne, eq_nitro_iff.2 hidentity⟩
  · rw [verify, herror, Result.error_bind]

theorem accepted_iff_signature_path_sample :
    (∃ statement leaf root, Statement.read (sampleCertificate []) = .ok statement ∧
      SignaturePath sampleRoot sampleLeaf [] [leaf, root] ∧ SignedByLeaf statement leaf ∧
      statement.document.publicKey = some (List.replicate 32 170)) ∧
    verify sampleRoot (sampleCertificate []) = .ok ⟨.nitro, List.replicate 32 170⟩ ∧
    (∀ identity, verify [] (sampleCertificate []) ≠ .ok identity) ∧
    Statement.read [] = .error .envelopeUnreadable ∧
      verify sampleRoot [] = .error .envelopeUnreadable := by
  obtain ⟨statement, leaf, root, hread, hleaf, hbundle, hkey, hpath, hsigned⟩ := exists_samplePath
  refine ⟨⟨statement, leaf, root, hread, hpath, hsigned, hkey⟩, ?_, fun identity hverify => ?_,
    rfl, (accepted_iff_signature_path sampleRoot []).2 _ rfl⟩
  · refine ((accepted_iff_signature_path sampleRoot (sampleCertificate [])).1 _).2
      ⟨statement, leaf, [root], _, hread, receivedIn_of_read hread, document_of_read hread, ?_,
        hsigned, hkey, by decide, rfl, rfl⟩
    rwa [hleaf, hbundle]
  · obtain ⟨other, first, others, -, hother, -, -, hothers, -⟩ :=
      ((accepted_iff_signature_path [] (sampleCertificate [])).1 identity).1 hverify
    obtain rfl : statement = other := Except.ok.inj (hread.symm.trans hother)
    rw [hleaf, hbundle] at hothers
    -- The root is the second of the path, and no certificate has no octets.
    obtain ⟨_, _, -, hroot, -⟩ := List.forall₂_cons_left_iff.1 hothers.read
    obtain ⟨_, _, hnone, -⟩ := List.forall₂_cons_left_iff.1 hroot
    cases hnone

end EnclaveRegistry.Nitro
