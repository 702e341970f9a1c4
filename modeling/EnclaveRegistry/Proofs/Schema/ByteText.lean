import EnclaveRegistry.Node.MasterKey
import EnclaveRegistry.Node.Record
import EnclaveRegistry.Proofs.Schema.Field
import EnclaveRegistry.Proofs.Schema.Json
import EnclaveRegistry.Proofs.Text.Sextet

/-! # Byte strings have one text

A byte string is read from a string of a JSON text exactly if the content of the string is the text
that is written for it. So certificates, seeds and master keys have one text each, in whichever way
its symbols are escaped.
-/
namespace EnclaveRegistry.Schema

open Json (Document RawText Tree)
open Result (bind_eq_ok_iff)

/-- Whether a tree is a string whose content is the base64 text of octets. -/
def HoldsText (tree : Tree) (octets : Bytes) : Prop :=
  ∃ raw text, tree = .text raw ∧ raw.content = .ok text ∧ Utf8.encode text = Base64.encode octets

variable {tree : Tree} {octets : Bytes} {text : String}

theorem read_base64_eq_ok_iff :
    ByteForm.base64.read text = .ok octets ↔ Utf8.encode text = Base64.encode octets := by
  rw [ByteForm.read, ← Base64.decode_eq_ok_iff]
  cases Base64.decode (Utf8.encode text) <;> simp [mismatch]

theorem read_bytes_eq_ok_iff :
    (Shape.bytes .base64).read tree = .ok octets ↔ HoldsText tree octets := by
  rw [Shape.read, bind_eq_ok_iff]
  simp only [readText_eq_ok_iff, read_base64_eq_ok_iff]
  constructor
  · rintro ⟨text, ⟨raw, htree, hcontent⟩, htext⟩
    exact ⟨raw, text, htree, hcontent, htext⟩
  · rintro ⟨raw, text, htree, hcontent, htext⟩
    exact ⟨text, ⟨raw, htree, hcontent⟩, htext⟩

theorem read_optional_bytes_eq_ok_iff :
    (Shape.optional (.bytes .base64)).read tree = .ok (some octets) ↔ HoldsText tree octets := by
  constructor
  · intro h
    exact read_bytes_eq_ok_iff.1 (Shape.read_of_read_optional h)
  · intro h
    have hread := read_bytes_eq_ok_iff.2 h
    obtain ⟨raw, text, rfl, -⟩ := h
    rw [Shape.read, hread]
    · rfl
    · nofun

theorem text_encode (octets : Bytes) :
    (RawText.ofBytes (Base64.encode octets)).text = 34 :: Base64.encode octets ++ [34] := by
  have hplain : ∀ octet ∈ Base64.pad :: Base64.alphabet, RawText.pieceOf octet = .plain octet := by
    decide +kernel
  refine RawText.text_ofBytes fun octet hoctet => hplain octet ?_
  obtain ⟨symbols, pads, h⟩ := Base64.exists_spells_encode octets
  rw [h.text_eq] at hoctet
  rcases List.mem_append.1 hoctet with hsymbol | hpad
  · exact List.mem_cons_of_mem _ (h.mem_alphabet octet hsymbol)
  · obtain rfl := List.eq_of_mem_replicate hpad
    exact List.mem_cons_self

/-! ## Documents -/

theorem ofJson_certificate_eq_ok_iff {document : Bytes} {certificate : Certificate} :
    ofJson Certificate document = .ok certificate ↔
      HoldsText (Document.read document).root certificate.octets ∧
        (Document.read document).trailing = false := by
  rw [ofJson_eq_ok_iff, ← read_bytes_eq_ok_iff]
  rfl

theorem ofJson_seed_eq_ok_iff {document : Bytes} {seed : EncryptedSeed} :
    ofJson EncryptedSeed document = .ok seed ↔
      HoldsText (Document.read document).root seed.octets ∧
        (Document.read document).trailing = false := by
  rw [ofJson_eq_ok_iff, ← read_bytes_eq_ok_iff]
  rfl

theorem exists_holdsText_of_ofJson_masterKey {document : Bytes} {key : MasterKey}
    (h : ofJson MasterKey document = .ok key) :
    ∃ field, firstOf? "bytes" (Document.read document).root = some field ∧
      HoldsText field key.octets := by
  obtain ⟨field, hfield, hread⟩ := exists_firstOf?_of_read (by simp [Fields.names]) rfl
    (ofJson_eq_ok_iff.1 h).1
  exact ⟨field, hfield, read_bytes_eq_ok_iff.1 hread⟩

/-- A byte string is written as a string in which nothing is escaped, and that is read back. Of all
strings those are read as it whose content is what was written, and that is what spells it:
symbols of the alphabet and pads, as many as fill up the last group, with no bit set behind the last
octet. What is read as the same octets is the same text. Certificates and seeds are read from such
strings, and so are those that may be left out and the octets of a master key. -/
theorem byte_strings_have_one_text :
    (∀ octets : Bytes, ∃ text,
      (Shape.bytes .base64).tree octets = .text (.ofString text) ∧
      Utf8.encode text = Base64.encode octets ∧
      (RawText.ofString text).text = 34 :: Base64.encode octets ++ [34] ∧
      (Shape.bytes .base64).read (.text (.ofString text)) = .ok octets) ∧
    (∀ (raw : RawText) (text : String) (octets : Bytes), raw.content = .ok text →
      ((Shape.bytes .base64).read (.text raw) = .ok octets ↔
        Utf8.encode text = Base64.encode octets)) ∧
    (∀ (text : String) (octets : Bytes), ByteForm.base64.read text = .ok octets ↔
      ∃ symbols pads, Base64.Spells (Utf8.encode text) octets symbols pads) ∧
    (∀ (text other : String) (octets : Bytes), ByteForm.base64.read text = .ok octets →
      ByteForm.base64.read other = .ok octets → text = other) ∧
    (∀ (tree : Tree) (octets : Bytes),
      ((Shape.bytes .base64).read tree = .ok octets ↔ HoldsText tree octets) ∧
      ((Shape.optional (.bytes .base64)).read tree = .ok (some octets) ↔
        HoldsText tree octets)) ∧
    (∀ (document : Bytes) (certificate : Certificate),
      ofJson Certificate document = .ok certificate ↔
        HoldsText (Document.read document).root certificate.octets ∧
          (Document.read document).trailing = false) ∧
    (∀ (document : Bytes) (seed : EncryptedSeed),
      ofJson EncryptedSeed document = .ok seed ↔
        HoldsText (Document.read document).root seed.octets ∧
          (Document.read document).trailing = false) ∧
    ∀ (document : Bytes) (key : MasterKey), ofJson MasterKey document = .ok key →
      ∃ field, firstOf? "bytes" (Document.read document).root = some field ∧
        HoldsText field key.octets := by
  refine ⟨fun octets => ?_, fun raw text octets hcontent => ?_, fun text octets => ?_,
    fun text other octets htext hother => ?_,
    fun tree octets => ⟨read_bytes_eq_ok_iff, read_optional_bytes_eq_ok_iff⟩,
    fun document certificate => ofJson_certificate_eq_ok_iff,
    fun document seed => ofJson_seed_eq_ok_iff,
    fun document key => exists_holdsText_of_ofJson_masterKey⟩
  · obtain ⟨text, htext⟩ := ByteForm.base64.exists_encode_eq octets
    have hwritten : RawText.ofString text = .ofBytes (Base64.encode octets) :=
      congrArg RawText.ofBytes htext
    refine ⟨text, ?_, htext, ?_, ?_⟩
    · rw [Shape.tree, hwritten]
      rfl
    · rw [hwritten, text_encode]
    · exact read_bytes_eq_ok_iff.2 ⟨_, text, rfl, RawText.content_ofString text, htext⟩
  · rw [read_bytes_eq_ok_iff]
    constructor
    · rintro ⟨other, found, htree, hfound, htext⟩
      cases htree
      rw [hcontent] at hfound
      cases hfound
      exact htext
    · intro htext
      exact ⟨raw, text, rfl, hcontent, htext⟩
  · rw [read_base64_eq_ok_iff, ← Base64.decode_eq_ok_iff, Base64.decode_eq_ok_iff_spells]
  · have hsame := read_base64_eq_ok_iff.1 htext
    rw [← read_base64_eq_ok_iff.1 hother] at hsame
    exact Utf8.encode_inj.1 hsame

/-- The first symbol is escaped; a text with a bit set behind the last octet is none. -/
theorem byte_strings_have_one_text_escaped :
    let raw : RawText := ⟨[.unit 65, .plain 65, .plain 69, .plain 61], .closed⟩
    let key : MasterKey := ⟨[0, 1]⟩
    raw.content = .ok "AAE=" ∧ (Shape.bytes .base64).read (.text raw) = .ok [0, 1] ∧
      (∀ other, ByteForm.base64.read other = .ok [0, 1] → other = "AAE=") ∧
      (∀ octets, ByteForm.base64.read "AAF=" ≠ .ok octets) ∧
      ofJson MasterKey (toJson key) = .ok key ∧
      ∃ field, firstOf? "bytes" (Document.read (toJson key)).root = some field ∧
        HoldsText field [0, 1] := by
  intro raw key
  have hcontent : raw.content = .ok "AAE=" := by rfl
  have htext : Utf8.encode "AAE=" = Base64.encode [0, 1] := by decide +kernel
  obtain ⟨-, hraw, -, hunique, -, -, -, hkey⟩ := byte_strings_have_one_text
  have hread : ByteForm.base64.read "AAE=" = .ok [0, 1] := read_base64_eq_ok_iff.2 htext
  have hshape : (shapeOf MasterKey).Unambiguous := by
    simp [shapeOf, Described.shape, Shape.Unambiguous, Fields.Unambiguous, Fields.names]
  have hwritten : ofJson MasterKey (toJson key) = .ok key := Writes.ofJson (.inl rfl) hshape
  have hrefused : Base64.decode (Utf8.encode "AAF=") = .error (.lastSymbol 70 2) := by
    decide +kernel
  refine ⟨hcontent, (hraw raw _ _ hcontent).2 htext, fun other hother => ?_, fun octets h => ?_,
    hwritten, hkey _ key hwritten⟩
  · exact hunique other _ _ hother hread
  · rw [ByteForm.read, hrefused] at h
    cases h

end EnclaveRegistry.Schema
