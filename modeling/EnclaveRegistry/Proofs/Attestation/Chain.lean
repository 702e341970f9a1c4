import EnclaveRegistry.Proofs.Attestation.Nitro

/-! # Which fault of a chain is reported

A chain is refused for the first of its certificates that cannot be read, then for its first link
that does not hold, then for the root's signature of itself. Copies of the root in the bundle have
no part in this, and everything else in it has.
-/
namespace EnclaveRegistry.Nitro

open Curve.Ecdsa (Signature)

def Reads (octets : Bytes) (certificate : X509.Certificate) : Prop :=
  X509.Certificate.read octets = some certificate

/-- Why a certificate is not signed with the key of another one's subject. The key is looked at
first, then the form of the signature. -/
inductive LinkFails (child parent : X509.Certificate) : LinkFault → Prop
  | badKey (unreadable : Curve.P384.decode? parent.content.publicKey.key.octets = none) :
    LinkFails child parent .badKey
  | badSignatureForm {key}
      (readable : Curve.P384.decode? parent.content.publicKey.key.octets = some key)
      (malformed : signatureParts? child.signature.octets = none) :
    LinkFails child parent .badSignatureForm
  | badSignature {key r s}
      (readable : Curve.P384.decode? parent.content.publicKey.key.octets = some key)
      (formed : signatureParts? child.signature.octets = some (r, s))
      (invalid : ∀ signature, Signature.ofParts? r s = some signature →
        Curve.Ecdsa.verify key child.content.toElement.write signature = false) :
    LinkFails child parent .badSignature

/-- What checking certificates, given by their octets from a leaf to a root, comes to. -/
inductive Judged : List Bytes → Except AttestationError Unit → Prop
  | unreadable {front bad certificates} (rest : List Bytes)
      (read : List.Forall₂ Reads front certificates) (fails : X509.Certificate.read bad = none) :
    Judged (front ++ bad :: rest) (.error (.certificateUnreadable (.unreadable front.length)))
  | unlinked {octets front child parent rest fault}
      (read : List.Forall₂ Reads octets (front ++ child :: parent :: rest))
      (linked : (front ++ [child]).IsChain SignedBy) (fails : LinkFails child parent fault) :
    Judged octets (.error (.chainBroken (.link front.length fault)))
  | unrooted {octets front root fault} (read : List.Forall₂ Reads octets (front ++ [root]))
      (linked : (front ++ [root]).IsChain SignedBy) (fails : LinkFails root root fault) :
    Judged octets (.error (.chainBroken (.root fault)))
  | accepted {octets certificates} (read : List.Forall₂ Reads octets certificates)
      (linked : certificates.IsChain SignedBy)
      (rooted : ∀ root ∈ certificates.getLast?, SignedBy root root) : Judged octets (.ok ())

/-- Whether two bundles differ in copies of the root only, wherever these stand. -/
inductive SameButRoots (root : Bytes) : List Bytes → List Bytes → Prop
  | nil : SameButRoots root [] []
  | keep (octets : Bytes) {bundle other} (rest : SameButRoots root bundle other) :
    SameButRoots root (octets :: bundle) (octets :: other)
  | insert {bundle other} (rest : SameButRoots root bundle other) :
    SameButRoots root bundle (root :: other)
  | delete {bundle other} (rest : SameButRoots root bundle other) :
    SameButRoots root (root :: bundle) other

variable {front : List X509.Certificate} {child parent root : X509.Certificate} {fault : LinkFault}

/-! ## One link -/

theorem checkIssued_of_linkFails (h : LinkFails child parent fault) :
    checkIssued child parent = .error fault := by
  unfold checkIssued
  rw [subjectKey?_eq, signedOctets_eq]
  cases h with
  | badKey unreadable => simp only [unreadable]
  | badSignatureForm readable malformed => simp only [readable, malformed]
  | @badSignature key r s readable formed invalid =>
    simp only [readable, formed]
    cases hsignature : Signature.ofParts? r s with
    | none => rfl
    | some signature => simp [invalid signature hsignature]

theorem signedBy_or_linkFails (child parent : X509.Certificate) :
    SignedBy child parent ∨ ∃ fault, LinkFails child parent fault := by
  cases hkey : Curve.P384.decode? parent.content.publicKey.key.octets with
  | none => exact .inr ⟨_, .badKey hkey⟩
  | some key =>
    cases hparts : signatureParts? child.signature.octets with
    | none => exact .inr ⟨_, .badSignatureForm hkey hparts⟩
    | some parts =>
      obtain ⟨r, s⟩ := parts
      by_cases hvalid : ∃ signature, Signature.ofParts? r s = some signature ∧
          Curve.Ecdsa.verify key child.content.toElement.write signature = true
      · obtain ⟨signature, hsignature, hverified⟩ := hvalid
        exact .inl ⟨key, r, s, signature, hkey, hparts, hsignature, hverified⟩
      · refine .inr ⟨_, .badSignature hkey hparts fun signature hsignature => ?_⟩
        exact Bool.eq_false_iff.2 fun hverified => hvalid ⟨signature, hsignature, hverified⟩

/-! ## Certificates one after the other -/

theorem readChain_of_unreadable {octets : List Bytes} {certificates : List X509.Certificate}
    {bad : Bytes} (hread : List.Forall₂ Reads octets certificates)
    (hbad : X509.Certificate.read bad = none) (rest : List Bytes) (index : Nat) :
    readChain index (octets ++ bad :: rest) =
      .error (.certificateUnreadable (.unreadable (index + octets.length))) := by
  induction hread generalizing index with
  | nil => simp [readChain, hbad]
  | @cons first certificate others _ hfirst _ ih =>
    have hindex : index + 1 + others.length = index + (first :: others).length := by
      rw [List.length_cons]
      omega
    rw [List.cons_append, readChain, hfirst]
    simp only [ih, Result.error_bind, hindex]

theorem reads_or_unreadable (octets : List Bytes) :
    (∃ certificates, List.Forall₂ Reads octets certificates) ∨
      ∃ front bad rest certificates, octets = front ++ bad :: rest ∧
        List.Forall₂ Reads front certificates ∧ X509.Certificate.read bad = none := by
  induction octets with
  | nil => exact .inl ⟨[], .nil⟩
  | cons first octets ih =>
    cases hfirst : X509.Certificate.read first with
    | none => exact .inr ⟨[], first, octets, [], rfl, .nil, hfirst⟩
    | some certificate =>
      rcases ih with ⟨certificates, hread⟩ | ⟨front, bad, rest, certificates, rfl, hread, hbad⟩
      · exact .inl ⟨certificate :: certificates, .cons hfirst hread⟩
      · exact .inr ⟨first :: front, bad, rest, certificate :: certificates, rfl,
          .cons hfirst hread, hbad⟩

theorem checkLinks_cons_of_signedBy (h : SignedBy child parent) (rest : List X509.Certificate)
    (index : Nat) :
    checkLinks index (child :: parent :: rest) = checkLinks (index + 1) (parent :: rest) := by
  rw [checkLinks, checkIssued_eq_ok_iff.2 h]

theorem checkLinks_append_of_isChain (hlinked : (front ++ [child]).IsChain SignedBy)
    (rest : List X509.Certificate) (index : Nat) :
    checkLinks index (front ++ child :: rest) =
      checkLinks (index + front.length) (child :: rest) := by
  induction front generalizing index with
  | nil => rfl
  | cons first front ih =>
    have hindex : index + 1 + front.length = index + (first :: front).length := by
      rw [List.length_cons]
      omega
    obtain ⟨hfirst, hrest⟩ := List.isChain_cons.1 hlinked
    rw [← hindex, ← ih hrest (index + 1)]
    -- A link is checked only where a second certificate is seen to follow.
    cases front with
    | nil => exact checkLinks_cons_of_signedBy (hfirst child rfl) _ index
    | cons second front => exact checkLinks_cons_of_signedBy (hfirst second rfl) _ index

theorem checkLinks_of_linkFails (hlinked : (front ++ [child]).IsChain SignedBy)
    (hfails : LinkFails child parent fault) (rest : List X509.Certificate) (index : Nat) :
    checkLinks index (front ++ child :: parent :: rest) =
      .error (.link (index + front.length) fault) := by
  rw [checkLinks_append_of_isChain hlinked, checkLinks, checkIssued_of_linkFails hfails]

theorem checkLinks_of_rootFails (hlinked : (front ++ [root]).IsChain SignedBy)
    (hfails : LinkFails root root fault) (index : Nat) :
    checkLinks index (front ++ [root]) = .error (.root fault) := by
  rw [checkLinks_append_of_isChain hlinked, checkLinks, checkIssued_of_linkFails hfails]

theorem linked_or_linkFails (certificates : List X509.Certificate) :
    certificates.IsChain SignedBy ∨
      ∃ front child parent rest fault, certificates = front ++ child :: parent :: rest ∧
        (front ++ [child]).IsChain SignedBy ∧ LinkFails child parent fault := by
  induction certificates with
  | nil => exact .inl .nil
  | cons child certificates ih =>
    cases certificates with
    | nil => exact .inl (.singleton child)
    | cons parent rest =>
      rcases signedBy_or_linkFails child parent with hsigned | ⟨fault, hfails⟩
      · rcases ih with hlinked | ⟨front, other, next, others, fault, hsplit, hlinked, hfails⟩
        · exact .inl (.cons_cons hsigned hlinked)
        · refine .inr ⟨child :: front, other, next, others, fault, ?_, ?_, hfails⟩
          · rw [hsplit, List.cons_append]
          · refine List.isChain_cons.2 ⟨fun second hsecond => ?_, hlinked⟩
            obtain rfl : parent = second := by cases front <;> simp_all
            exact hsigned
      · exact .inr ⟨[], child, parent, rest, fault, rfl, .singleton child, hfails⟩

/-! ## Whole chains -/

theorem exists_judged (octets : List Bytes) : ∃ result, Judged octets result := by
  rcases reads_or_unreadable octets with
    ⟨certificates, hread⟩ | ⟨front, bad, rest, certificates, rfl, hread, hbad⟩
  · rcases linked_or_linkFails certificates with
      hlinked | ⟨front, child, parent, rest, fault, rfl, hlinked, hfails⟩
    · rcases List.eq_nil_or_concat certificates with rfl | ⟨front, root, rfl⟩
      · exact ⟨_, .accepted hread hlinked nofun⟩
      · rcases signedBy_or_linkFails root root with hsigned | ⟨fault, hfails⟩
        · refine ⟨_, .accepted hread hlinked fun last hlast => ?_⟩
          rw [List.concat_eq_append, List.getLast?_concat] at hlast
          obtain rfl := Option.some.inj hlast
          exact hsigned
        · rw [List.concat_eq_append] at hread hlinked
          exact ⟨_, .unrooted hread hlinked hfails⟩
    · exact ⟨_, .unlinked hread hlinked hfails⟩
  · exact ⟨_, .unreadable rest hread hbad⟩

variable {rootOctets leaf : Bytes} {bundle : List Bytes} {result : Except AttestationError Unit}

theorem checkChain_of_judged (h : Judged (path rootOctets leaf bundle) result) :
    checkChain rootOctets leaf bundle = result := by
  have hread {certificates : List X509.Certificate}
      (h : List.Forall₂ Reads (path rootOctets leaf bundle) certificates) :
      readChain 0 (path rootOctets leaf bundle) = .ok certificates := readChain_eq_ok_iff.2 h
  rw [checkChain, chain_eq_path]
  generalize path rootOctets leaf bundle = octets at h hread
  cases h with
  | unreadable rest read fails =>
    rw [readChain_of_unreadable read fails, Nat.zero_add]
    rfl
  | unlinked read linked fails =>
    rw [hread read, Result.ok_bind, checkLinks_of_linkFails linked fails, Nat.zero_add]
  | unrooted read linked fails =>
    rw [hread read, Result.ok_bind, checkLinks_of_rootFails linked fails]
  | accepted read linked rooted =>
    rw [hread read, Result.ok_bind, checkLinks_eq_ok_iff.2 ⟨linked, rooted⟩]
    rfl

theorem checkChain_eq_iff_judged :
    checkChain rootOctets leaf bundle = result ↔ Judged (path rootOctets leaf bundle) result := by
  refine ⟨?_, checkChain_of_judged⟩
  rintro rfl
  obtain ⟨result, hjudged⟩ := exists_judged (path rootOctets leaf bundle)
  rw [checkChain_of_judged hjudged]
  exact hjudged

theorem SameButRoots.path_eq {other : List Bytes} (h : SameButRoots rootOctets bundle other) :
    path rootOctets leaf other = path rootOctets leaf bundle := by
  have hfilter : (other.filter fun octets => octets != rootOctets) =
      bundle.filter fun octets => octets != rootOctets := by
    induction h with
    | nil => rfl
    | keep octets _ ih => rw [List.filter_cons, List.filter_cons, ih]
    | insert _ ih => simpa using ih
    | delete _ ih => simpa using ih
  rw [path, path, hfilter]

theorem getElem?_path {octets : Bytes} (h : octets ≠ rootOctets) (before after : List Bytes) :
    (path rootOctets leaf (before ++ octets :: after))[
      (after.filter fun octets => octets != rootOctets).length + 1]? = some octets := by
  have hkept : (octets != rootOctets) = true := bne_iff_ne.2 h
  simp [path, hkept]

/-! ## Samples -/

def keylessCertificate (serial : UInt8) : Bytes :=
  [48, 70, 48, 58, 2, 1, serial, 48, 5, 6, 3, 42, 3, 4, 48, 0,
    48, 30, 23, 13, 50, 48, 48, 49, 48, 49, 48, 48, 48, 48, 48, 48, 90,
    23, 13, 52, 57, 48, 49, 48, 49, 48, 48, 48, 48, 48, 48, 90,
    48, 0, 48, 10, 48, 5, 6, 3, 42, 3, 4, 3, 1, 0, 48, 5, 6, 3, 42, 3, 4, 3, 1, 0]

/-- A certificate of the root's key under another name, with a signature that is none. -/
def sampleTwin : Bytes := sampleIssued "twin" sampleRootKey (List.replicate 103 0)

theorem SignedBy.of_key_eq {other : X509.Certificate} (h : SignedBy child parent)
    (hkey : other.content.publicKey.key.octets = parent.content.publicKey.key.octets) :
    SignedBy child other := by
  unfold SignedBy at h ⊢
  rwa [hkey]

theorem exists_samples : ∃ leaf root twin, Reads sampleLeaf leaf ∧ Reads sampleRoot root ∧
    Reads sampleTwin twin ∧ SignedBy leaf root ∧ SignedBy root root ∧
    twin.content.publicKey.key.octets = root.content.publicKey.key.octets ∧
    signatureParts? twin.signature.octets = none := by
  obtain ⟨-, leaf, root, -, -, -, -, hpath, -⟩ := exists_samplePath
  obtain ⟨hreadLeaf, hrest⟩ := List.forall₂_cons.1 hpath.read
  obtain ⟨hreadRoot, -⟩ := List.forall₂_cons.1 hrest
  have htwin : (X509.Certificate.read sampleTwin).map (fun twin =>
      (twin.content.publicKey.key.octets, signatureParts? twin.signature.octets)) =
        (X509.Certificate.read sampleRoot).map fun root =>
          (root.content.publicKey.key.octets, none) := by decide +kernel
  rw [hreadRoot] at htwin
  obtain ⟨twin, hreadTwin, hsame⟩ := Option.map_eq_some_iff.1 htwin
  obtain ⟨hkey, hnone⟩ := Prod.mk.inj hsame
  exact ⟨leaf, root, twin, hreadLeaf, hreadRoot, hreadTwin,
    (List.isChain_cons_cons.1 hpath.linked).1, hpath.rooted root rfl, hkey, hnone⟩

/-! ## Judgement -/

/-- A chain is judged by the certificates on the path from the leaf to the root: the first that
cannot be read is reported, whatever the links before it are like, otherwise the first link that
does not hold, otherwise the root if it does not sign itself, and otherwise the chain is accepted.
It is judged alike however many copies of the root the bundle has and wherever they stand. All else
in the bundle is on the path. -/
theorem chains_are_judged_by_first_fault (rootOctets leaf : Bytes) (bundle : List Bytes) :
    (∀ result, checkChain rootOctets leaf bundle = result ↔
      Judged (path rootOctets leaf bundle) result) ∧
    (∀ other, SameButRoots rootOctets bundle other →
      checkChain rootOctets leaf other = checkChain rootOctets leaf bundle) ∧
    ∀ before octets after, bundle = before ++ octets :: after → octets ≠ rootOctets →
      (path rootOctets leaf bundle)[
        (after.filter fun octets => octets != rootOctets).length + 1]? = some octets := by
  refine ⟨fun result => checkChain_eq_iff_judged, fun other hother => ?_, ?_⟩
  · refine checkChain_of_judged ?_
    rw [hother.path_eq]
    exact checkChain_eq_iff_judged.1 rfl
  · rintro before octets after rfl hne
    exact getElem?_path hne before after

/-- A chain that is accepted, one whose second link is the first that fails, one whose root does not
sign itself, and one with octets that are no certificate: these are reported, although no link
before them holds. -/
theorem chains_are_judged_by_first_fault_sample :
    checkChain sampleRoot sampleLeaf [] = .ok () ∧
    checkChain sampleRoot sampleLeaf [sampleTwin] =
      .error (.chainBroken (.link 1 .badSignatureForm)) ∧
    checkChain sampleTwin sampleLeaf [] = .error (.chainBroken (.root .badSignatureForm)) ∧
    let root := keylessCertificate 1
    let leaf := keylessCertificate 2
    checkChain root leaf [[1], root, leaf] =
        .error (.certificateUnreadable (.unreadable 2)) ∧
      (SameButRoots root [[1], root, leaf] [root, [1], leaf, root, root] ∧
        checkChain root leaf [root, [1], leaf, root, root] =
          .error (.certificateUnreadable (.unreadable 2))) ∧
      [1] ≠ root ∧ (path root leaf [[1], root, leaf])[2]? = some [1] := by
  obtain ⟨leaf, root, twin, hleaf, hroot, htwin, hsigned, hself, hkey, hnone⟩ := exists_samples
  have hkeyed := hself
  obtain ⟨key, _, _, _, hreadable, -⟩ := hkeyed
  have hlinked : ([leaf] ++ [twin]).IsChain SignedBy :=
    .cons_cons (hsigned.of_key_eq hkey) (.singleton twin)
  have hbundle : path sampleRoot sampleLeaf [sampleTwin] =
      [sampleLeaf, sampleTwin, sampleRoot] := by
    decide +kernel
  refine ⟨?_, ?_, ?_, ?_⟩
  · refine ((chains_are_judged_by_first_fault sampleRoot sampleLeaf []).1 _).2 ?_
    refine .accepted (.cons hleaf (.cons hroot .nil)) (.cons_cons hsigned (.singleton root)) ?_
    rintro _ ⟨⟩
    exact hself
  · refine ((chains_are_judged_by_first_fault sampleRoot sampleLeaf [sampleTwin]).1 _).2 ?_
    have hread : List.Forall₂ Reads [sampleLeaf, sampleTwin, sampleRoot]
        ([leaf] ++ twin :: root :: []) := .cons hleaf (.cons htwin (.cons hroot .nil))
    rw [hbundle]
    exact .unlinked hread hlinked (.badSignatureForm hreadable hnone)
  · refine ((chains_are_judged_by_first_fault sampleTwin sampleLeaf []).1 _).2 ?_
    have hread : List.Forall₂ Reads (path sampleTwin sampleLeaf []) ([leaf] ++ [twin]) :=
      .cons hleaf (.cons htwin .nil)
    rw [← hkey] at hreadable
    exact .unrooted hread hlinked (.badSignatureForm hreadable hnone)
  · intro root leaf
    obtain ⟨hjudged, hroots, hpath⟩ :=
      chains_are_judged_by_first_fault root leaf [[1], root, leaf]
    have hleaf : (X509.Certificate.read leaf).isSome = true := by decide +kernel
    obtain ⟨certificate, hread⟩ := Option.isSome_iff_exists.1 hleaf
    have hresult := (hjudged _).2 (.unreadable [root] (.cons hread (.cons hread .nil)) rfl)
    have hsame : SameButRoots root [[1], root, leaf] [root, [1], leaf, root, root] :=
      .insert (.keep [1] (.delete (.keep leaf (.insert (.insert .nil)))))
    have hne : [1] ≠ root := by decide
    refine ⟨hresult, ⟨hsame, ?_⟩, hne, hpath [] [1] [root, leaf] rfl hne⟩
    rw [hroots _ hsame]
    exact hresult

end EnclaveRegistry.Nitro
