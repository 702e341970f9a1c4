import EnclaveRegistry.Attestation.Document
import EnclaveRegistry.Proofs.Cbor.Spelling

/-! # Reading back attestation documents

A document is sent as a map of its fields, in any order and each item in any of its spellings. The
fields are found by their names alone, the measurements are put back in ascending order, and so
what is read is the document that was sent.
-/
namespace EnclaveRegistry.Attestation

open Cbor (Item Spelled)

/-! ## Fields of distinct names -/

variable {fields fields' : List (String × Item)}

theorem lookup_eq_of_perm (h : fields.Perm fields') (hunique : (fields.map (·.1)).Nodup)
    (name : String) : fields.lookup name = fields'.lookup name := by
  induction h with
  | nil => rfl
  | cons field _ ih =>
    rw [List.lookup_cons, List.lookup_cons, ih (List.nodup_cons.1 hunique).2]
  | swap first second rest =>
    have hne : second.1 ≠ first.1 := by
      intro heq
      simp [heq] at hunique
    rw [List.lookup_cons, List.lookup_cons, List.lookup_cons, List.lookup_cons]
    by_cases hfirst : name = first.1
    · have hsecond : (name == second.1) = false := beq_eq_false_iff_ne.2 (hfirst ▸ hne.symm)
      rw [hsecond]
    · rw [beq_eq_false_iff_ne.2 hfirst]
  | trans hfirst _ ih ih' =>
    exact (ih hunique).trans (ih' ((hfirst.map _).nodup_iff.1 hunique))

theorem length_name_le : ∀ name ∈ fieldNames, (Utf8.encode name).length ≤ longestName := by
  decide

theorem fields?_text (h : ∀ field ∈ fields, field.1 ∈ fieldNames) :
    fields? (fields.map fun field => (.text field.1 false, field.2)) = some fields := by
  induction fields with
  | nil => rfl
  | cons field rest ih =>
    have hname := h field (List.mem_cons_self ..)
    have hrest := ih fun other hmem => h other (List.mem_cons_of_mem _ hmem)
    simp [fields?, memberName?, Item.untagged, length_name_le _ hname, hname, hrest]

/-! ## Measurements -/

def Ascending (measurements : List (UInt32 × Bytes)) : Prop :=
  measurements.Pairwise fun a b => a.1 < b.1

variable {index : UInt32} {measurements : List (UInt32 × Bytes)}

theorem insertByIndex_perm (value : Bytes) (h : ∀ entry ∈ measurements, entry.1 ≠ index) :
    (insertByIndex index value measurements).Perm ((index, value) :: measurements) := by
  induction measurements with
  | nil => exact .refl _
  | cons entry rest ih =>
    rw [insertByIndex]
    split
    · exact .refl _
    split
    · exact absurd (Eq.symm ‹_›) (h entry (List.mem_cons_self ..))
    · have hrest := ih fun other hmem => h other (List.mem_cons_of_mem _ hmem)
      exact (hrest.cons entry).trans (.swap ..)

theorem Ascending.insertByIndex (value : Bytes) (hascending : Ascending measurements)
    (h : ∀ entry ∈ measurements, entry.1 ≠ index) :
    Ascending (insertByIndex index value measurements) := by
  induction measurements with
  | nil => exact List.pairwise_singleton ..
  | cons entry rest ih =>
    obtain ⟨hbelow, hrest⟩ := List.pairwise_cons.1 hascending
    rw [Attestation.insertByIndex]
    split
    · rename_i hlt
      refine List.pairwise_cons.2 ⟨fun other hmem => ?_, hascending⟩
      cases hmem with
      | head => exact hlt
      | tail _ hmem => exact UInt32.lt_trans hlt (hbelow other hmem)
    split
    · exact absurd (Eq.symm ‹_›) (h entry (List.mem_cons_self ..))
    · rename_i hge hne
      have hfresh := fun other hmem => h other (List.mem_cons_of_mem _ hmem)
      refine List.pairwise_cons.2 ⟨fun other hmem => ?_, ih hrest hfresh⟩
      rcases List.mem_cons.1 ((insertByIndex_perm value hfresh).mem_iff.1 hmem) with rfl | hmem
      · exact UInt32.lt_of_le_of_ne (UInt32.not_lt.1 hge) (Ne.symm hne)
      · exact hbelow other hmem

def measurementItem (entry : UInt32 × Bytes) : Item × Item :=
  (.unsigned entry.1.toNat, .bytes entry.2 false)

theorem natural?_unsigned {value limit : Nat} (h : value < limit) :
    natural? limit (.unsigned value) = some value := by
  simp [natural?, Item.integer?, h]

theorem measurements?_map (entries : List (UInt32 × Bytes)) :
    measurements? (.map (entries.map measurementItem)) =
      some (entries.foldl (fun before entry => insertByIndex entry.1 entry.2 before) []) := by
  have hindex (entry : UInt32 × Bytes) :
      natural? UInt32.size (.unsigned entry.1.toNat) = some entry.1.toNat :=
    natural?_unsigned entry.1.toNat_lt
  have hoctets (entry : UInt32 × Bytes) : octets? (.bytes entry.2 false) = some entry.2 := rfl
  simp only [measurements?, Item.untagged, List.foldlM_map, measurementItem, hindex, hoctets,
    Option.bind_eq_bind, Option.bind_some, UInt32.ofNat_toNat]
  exact List.foldlM_pure

theorem foldl_insertByIndex {before entries : List (UInt32 × Bytes)} (hascending : Ascending before)
    (hunique : ((entries ++ before).map (·.1)).Nodup) :
    Ascending (entries.foldl (fun before entry => insertByIndex entry.1 entry.2 before) before) ∧
      (entries.foldl (fun before entry => insertByIndex entry.1 entry.2 before) before).Perm
        (entries ++ before) := by
  induction entries generalizing before with
  | nil => exact ⟨hascending, .refl _⟩
  | cons entry rest ih =>
    have hfresh : ∀ other ∈ before, other.1 ≠ entry.1 := by
      intro other hmem heq
      refine (List.nodup_cons.1 hunique).1 (List.mem_map.2 ⟨other, ?_, heq⟩)
      exact List.mem_append_right rest hmem
    -- The entries left and those put in place are together the same ones after each insertion.
    have hmoved : (rest ++ insertByIndex entry.1 entry.2 before).Perm (entry :: rest ++ before) :=
      ((insertByIndex_perm entry.2 hfresh).append_left rest).trans List.perm_middle
    obtain ⟨hsorted, hperm⟩ := ih (hascending.insertByIndex entry.2 hfresh)
      ((hmoved.map _).nodup_iff.2 hunique)
    exact ⟨hsorted, hperm.trans hmoved⟩

theorem Ascending.nodup (h : Ascending measurements) : (measurements.map (·.1)).Nodup :=
  List.pairwise_map.2 (h.imp fun {_ _} hlt => UInt32.ne_of_lt hlt)

theorem measurements?_perm {entries : List (UInt32 × Bytes)} (hascending : Ascending measurements)
    (hperm : entries.Perm measurements) :
    measurements? (.map (entries.map measurementItem)) = some measurements := by
  have hunique : (entries.map (·.1)).Nodup := (hperm.map _).nodup_iff.2 hascending.nodup
  obtain ⟨hsorted, hsame⟩ := foldl_insertByIndex .nil (by rwa [List.append_nil])
  rw [List.append_nil] at hsame
  rw [measurements?_map, Option.some.injEq]
  refine (hsame.trans hperm).eq_of_pairwise (fun a b _ _ hlt hgt => ?_) hsorted hascending
  exact absurd hgt (UInt32.lt_asymm hlt)

/-! ## Documents that are sent -/

/-- The members that an optional field is sent as: one of its name, also where there is nothing in
the field, or none. -/
inductive OptionalMember (name : String) : Option Bytes → List (String × Item) → Prop
  | present (octets : Bytes) : OptionalMember name (some octets) [(name, .bytes octets false)]
  | null : OptionalMember name none [(name, .simple 22)]
  | leftOut : OptionalMember name none []

/-- The members of the fields that are never left out, with measurements in a given order. -/
def Document.requiredMembers (document : Document) (entries : List (UInt32 × Bytes)) :
    List (String × Item) :=
  [("module_id", .text document.moduleId false), ("digest", .text document.digest false),
    ("timestamp", .unsigned document.timestamp.toNat),
    ("pcrs", .map (entries.map measurementItem)),
    ("certificate", .bytes document.certificate false),
    ("cabundle", .array (document.bundle.map fun octets => .bytes octets false))]

/-- Whether members are those of a document, in whatever order. -/
inductive Document.HasMembers (document : Document) (members : List (String × Item)) : Prop
  | intro (entries : List (UInt32 × Bytes)) (publicKey userData nonce : List (String × Item)) :
      entries.Perm document.pcrs →
      OptionalMember "public_key" document.publicKey publicKey →
      OptionalMember "user_data" document.userData userData →
      OptionalMember "nonce" document.nonce nonce →
      members.Perm (document.requiredMembers entries ++ (publicKey ++ (userData ++ nonce))) →
      HasMembers document members

/-- Whether octets are a map of the members of a document. -/
def Document.EncodedAs (document : Document) (payload : Bytes) : Prop :=
  ∃ members, document.HasMembers members ∧
    Spelled (.map (members.map fun member => (.text member.1 false, member.2))) payload

section Optional

variable {name : String} {value : Option Bytes} {members : List (String × Item)}

theorem OptionalMember.names_sublist (h : OptionalMember name value members) :
    (members.map (·.1)).Sublist [name] := by
  cases h with
  | leftOut => exact List.nil_sublist _
  | present | null => exact List.Sublist.refl _

theorem OptionalMember.lookup_eq_none (h : OptionalMember name value members) {other : String}
    (hne : other ≠ name) : members.lookup other = none := by
  have hother : (other == name) = false := beq_eq_false_iff_ne.2 hne
  cases h <;> simp [List.lookup_cons, hother]

theorem OptionalMember.optional? (h : OptionalMember name value members)
    (hlookup : fields.lookup name = members.lookup name) : optional? fields name = some value := by
  rw [Attestation.optional?, hlookup]
  cases h with
  | leftOut => rfl
  | null => simp [optionalOctets?, Item.isNull]
  | present octets => simp [optionalOctets?, Item.isNull, octets?, Item.untagged]

end Optional

/-! ## Reading -/

variable {document : Document} {members : List (String × Item)}

theorem Document.HasMembers.names (h : document.HasMembers members) :
    (∀ member ∈ members, member.1 ∈ fieldNames) ∧ (members.map (·.1)).Nodup := by
  obtain ⟨entries, publicKey, userData, nonce, -, hkey, hdata, hnonce, hperm⟩ := h
  have hnames := hperm.map (·.1)
  have hsublist : ((document.requiredMembers entries ++ (publicKey ++ (userData ++ nonce))).map
      (·.1)).Sublist fieldNames := by
    simp only [List.map_append]
    exact (List.Sublist.refl ["module_id", "digest", "timestamp", "pcrs", "certificate",
      "cabundle"]).append
        (hkey.names_sublist.append (hdata.names_sublist.append hnonce.names_sublist))
  refine ⟨fun member hmem => ?_, hnames.nodup_iff.2 (hsublist.nodup (by decide))⟩
  exact hsublist.subset (hnames.mem_iff.1 (List.mem_map_of_mem hmem))

theorem octetLists?_array (bundle : List Bytes) :
    octetLists? (.array (bundle.map fun octets => .bytes octets false)) = some bundle := by
  simp only [octetLists?, Item.untagged]
  induction bundle with
  | nil => rfl
  | cons octets rest ih => simp [ih, octets?, Item.untagged]

theorem required?_eq_some {α : Type} {read : Item → Option α} {name : String} {item : Item}
    {value : α} (hlookup : fields.lookup name = some item) (hread : read item = some value) :
    required? read fields name = some value := by
  rw [required?, hlookup, Option.bind_some, hread]

theorem Document.HasMembers.exists_lookup_eq (h : document.HasMembers members) :
    ∃ entries publicKey userData nonce, entries.Perm document.pcrs ∧
      OptionalMember "public_key" document.publicKey publicKey ∧
      OptionalMember "user_data" document.userData userData ∧
      OptionalMember "nonce" document.nonce nonce ∧
      ∀ name, members.lookup name = ((document.requiredMembers entries).lookup name).or
        ((publicKey.lookup name).or ((userData.lookup name).or (nonce.lookup name))) := by
  obtain ⟨-, hunique⟩ := h.names
  obtain ⟨entries, publicKey, userData, nonce, hentries, hkey, hdata, hnonce, hperm⟩ := h
  refine ⟨entries, publicKey, userData, nonce, hentries, hkey, hdata, hnonce, fun name => ?_⟩
  simp only [lookup_eq_of_perm hperm hunique, List.lookup_append]

theorem Document.HasMembers.optional_fields (h : document.HasMembers members) :
    optional? members "public_key" = some document.publicKey ∧
      optional? members "user_data" = some document.userData ∧
      optional? members "nonce" = some document.nonce := by
  obtain ⟨entries, publicKey, userData, nonce, -, hkey, hdata, hnonce, hlookup⟩ :=
    h.exists_lookup_eq
  refine ⟨hkey.optional? ?_, hdata.optional? ?_, hnonce.optional? ?_⟩
  · simp [hlookup, requiredMembers, List.lookup_cons, hdata.lookup_eq_none, hnonce.lookup_eq_none]
  · simp [hlookup, requiredMembers, List.lookup_cons, hkey.lookup_eq_none, hnonce.lookup_eq_none]
  · simp [hlookup, requiredMembers, List.lookup_cons, hkey.lookup_eq_none, hdata.lookup_eq_none]

theorem Document.HasMembers.required_fields (h : document.HasMembers members)
    (hascending : Ascending document.pcrs) :
    required? text? members "module_id" = some document.moduleId ∧
      required? text? members "digest" = some document.digest ∧
      required? (natural? UInt64.size) members "timestamp" = some document.timestamp.toNat ∧
      required? measurements? members "pcrs" = some document.pcrs ∧
      required? octets? members "certificate" = some document.certificate ∧
      required? octetLists? members "cabundle" = some document.bundle := by
  obtain ⟨entries, publicKey, userData, nonce, hentries, -, -, -, hlookup⟩ := h.exists_lookup_eq
  have hrequired {α : Type} {read : Item → Option α} {name : String} {item : Item} {value : α}
      (hfound : (document.requiredMembers entries).lookup name = some item)
      (hread : read item = some value) : required? read members name = some value :=
    required?_eq_some (by rw [hlookup, hfound, Option.some_or]) hread
  exact ⟨hrequired rfl rfl, hrequired rfl rfl,
    hrequired rfl (natural?_unsigned document.timestamp.toNat_lt_size),
    hrequired rfl (measurements?_perm hascending hentries), hrequired rfl rfl,
    hrequired rfl (octetLists?_array document.bundle)⟩

theorem Document.HasMembers.ofItem? (h : document.HasMembers members)
    (hascending : Ascending document.pcrs) :
    Document.ofItem? (.map (members.map fun member => (.text member.1 false, member.2))) =
      some document := by
  obtain ⟨hknown, hunique⟩ := h.names
  obtain ⟨hmodule, hdigest, htimestamp, hpcrs, hcertificate, hbundle⟩ :=
    h.required_fields hascending
  obtain ⟨hkey, hdata, hnonce⟩ := h.optional_fields
  simp [Document.ofItem?, Item.untagged, fields?_text hknown, hunique, hmodule, hdigest,
    htimestamp, hpcrs, hcertificate, hbundle, hkey, hdata, hnonce]

/-- A document is read back from the front of its payload. -/
theorem Document.EncodedAs.read {payload : Bytes} (h : document.EncodedAs payload)
    (hascending : Ascending document.pcrs) : Document.read payload = some document := by
  obtain ⟨members, hmembers, hspelled⟩ := h
  have hread := hspelled.read []
  rw [List.append_nil] at hread
  rw [Document.read, hread]
  exact hmembers.ofItem? hascending

/-! ## Envelopes -/

def schemeHeader : Item := .map [(.unsigned 1, .negative 34)]

def signedItem (headerOctets payload signature : Bytes) : Item :=
  .array [.bytes headerOctets false, .map [], .bytes payload false, .bytes signature false]

variable {certificate payload headerOctets signature : Bytes}

theorem isProtected_of_spelled (h : Spelled schemeHeader headerOctets) (fuel : Nat) :
    Cose.isProtected (fuel + 2) headerOctets = true := by
  have hheader : Cose.isHeader (fuel + 1) schemeHeader = true := rfl
  rw [Cose.isProtected, h.readWhole, Option.any_some, hheader]
  simp [schemeHeader, Item.isPlain, Item.haveTwoPlain]

theorem ofItem?_signedItem (h : Spelled schemeHeader headerOctets) (fuel : Nat) :
    Cose.Envelope.ofItem? (fuel + 2) (signedItem headerOctets payload signature) =
      some ⟨headerOctets, some payload, signature⟩ := by
  have hempty : Cose.isHeader (fuel + 2) (.map []) = true := rfl
  simp [Cose.Envelope.ofItem?, signedItem, Cose.payload?, hempty, isProtected_of_spelled h]

theorem envelope_read_of_spelled (hheader : Spelled schemeHeader headerOctets)
    (h : Spelled (signedItem headerOctets payload signature) certificate) :
    Cose.Envelope.read certificate = some ⟨headerOctets, some payload, signature⟩ := by
  have hpos := h.length_pos
  have hplain : (signedItem headerOctets payload signature).isPlain 256 = true := by
    simp [signedItem, Item.isPlain, Item.arePlain, Item.haveTwoPlain]
  obtain ⟨fuel, hfuel⟩ : ∃ fuel, 3 * certificate.length + 1 = fuel + 2 :=
    ⟨3 * certificate.length - 1, by omega⟩
  rw [Cose.Envelope.read, h.readWhole, hfuel]
  simp [hplain, ofItem?_signedItem hheader]

/-- A document is read back as it was encoded, whatever the order of its members and the spelling
of its items: in a certificate that carries it under the header of the scheme, next to any
signature. -/
theorem encoded_documents_are_read_back (document : Document)
    (hascending : Ascending document.pcrs) (hpayload : document.EncodedAs payload)
    (hheader : Spelled schemeHeader headerOctets)
    (hcertificate : Spelled (signedItem headerOctets payload signature) certificate) :
    Statement.read certificate =
      .ok ⟨⟨headerOctets, some payload, signature⟩, payload, document⟩ := by
  rw [Statement.read, envelope_read_of_spelled hheader hcertificate]
  dsimp only
  rw [hpayload.read hascending]

def sampleDocument : Document where
  moduleId := "m"
  digest := "d"
  timestamp := 256
  pcrs := [(0, [1]), (24, [])]
  certificate := [48]
  bundle := [[5], []]
  publicKey := some [7]
  userData := none
  nonce := none

/-- The members of the sample, last field first: its user data is null and its nonce left out. -/
def sampleMembers : List (String × Item) :=
  (sampleDocument.requiredMembers sampleDocument.pcrs.reverse ++
    [("public_key", Item.bytes [7] false), ("user_data", Item.simple 22)]).reverse

def samplePayload : Bytes :=
  (Item.map (sampleMembers.map fun member => (.text member.1 false, member.2))).write

/-- The number of the scheme stands in two octets, where one is enough. -/
def sampleHeader : Bytes := [161, 1, 57, 0, 34]

theorem encoded_documents_are_read_back_reversed :
    Statement.read (signedItem sampleHeader samplePayload [9]).write =
      .ok ⟨⟨sampleHeader, some samplePayload, [9]⟩, samplePayload, sampleDocument⟩ := by
  have hmembers : sampleDocument.HasMembers sampleMembers :=
    .intro _ _ _ _ (List.reverse_perm _) (.present [7]) .null .leftOut (List.reverse_perm _)
  have hheader : Spelled schemeHeader sampleHeader :=
    .map (.short (by decide)) (.cons (.unsigned (.short (by decide)))
      (.cons (.negative (.long 25 (by decide) (by decide) (by decide))) .nil))
  have hascending : Ascending sampleDocument.pcrs := by
    unfold Ascending
    decide
  exact encoded_documents_are_read_back sampleDocument hascending
    ⟨sampleMembers, hmembers, Item.spelled_write _ (by decide)⟩ hheader
    (Item.spelled_write _ (by decide))

end EnclaveRegistry.Attestation
