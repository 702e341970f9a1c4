import EnclaveRegistry.Proofs.Genesis.Migration
import EnclaveRegistry.Proofs.Schema.Field

/-! # The version decides how a document is read

A text is read twice: for its version, with all else skipped, and as a strict document. Both
readings find the version in the same place, so that a document is never taken for one of another
schema, and what has been loaded once is loaded again as it is.
-/
namespace EnclaveRegistry.Genesis

open Result (bind_eq_ok_iff)
open Schema (Described Fields Shape Width Writes ofJson shapeOf toJson)

/-! ## Two readings of one text -/

/-- Whether a text has a number as its version: under the name of the version, or as the first item
where fields are told by their places. -/
def HasVersion (text : Bytes) (version : Nat) : Prop :=
  ∃ numeral, Schema.firstOf? "schema_version" (Json.Document.read text).root =
    some (.numeral numeral) ∧ Schema.numberOf numeral = .ok (.natural version)

theorem HasVersion.unique {text : Bytes} {version other : Nat} (h : HasVersion text version)
    (h' : HasVersion text other) : version = other := by
  obtain ⟨numeral, hfirst, hnumber⟩ := h
  obtain ⟨numeral', hfirst', hnumber'⟩ := h'
  rw [hfirst] at hfirst'
  cases hfirst'
  rw [hnumber] at hnumber'
  cases hnumber'
  rfl

/-- A record that starts with the version is read only from a text that has it, whatever the width
of the number and whatever follows. -/
theorem hasVersion_of_read {text : Bytes} {record : String} {strict : Bool} {width : Width}
    {rest : Fields} {version : width.Carrier} {values : rest.Carrier}
    (hnames : (Fields.cons "schema_version" (.natural width) rest).names.Nodup)
    (h : (Shape.record record strict (.cons "schema_version" (.natural width) rest)).read
      (Json.Document.read text).root = .ok (version, values)) :
    HasVersion text (width.toNat version) := by
  obtain ⟨first, hfirst, hread⟩ := Schema.exists_firstOf?_of_read hnames rfl h
  rw [Shape.read] at hread
  obtain ⟨numeral, rfl, hnumber⟩ := Width.numberOf_of_read hread
  exact ⟨numeral, hfirst, hnumber⟩

theorem hasVersion_of_readVersion {text : Bytes} {version : UInt64}
    (h : readVersion text = .ok version) : HasVersion text version.toNat := by
  have hheader := readVersion_eq_ok_iff.1 h
  have hnames : (Fields.cons "schema_version" (.natural .eight) .nil).names.Nodup := by
    simp [Fields.names]
  exact hasVersion_of_read hnames (Schema.ofJson_eq_ok_iff.1 hheader).1

theorem hasVersion_of_ofJson {σ : Type} [Described σ] {text : Bytes} {document : Document σ}
    (h : ofJson (Document σ) text = .ok document) : HasVersion text document.version.toNat := by
  have hnames : (Fields.cons "schema_version" (.natural .four)
      (.cons "registration" (shapeOf σ) .nil)).names.Nodup := by
    simp [Fields.names]
  exact hasVersion_of_read hnames (Schema.ofJson_eq_ok_iff.1 h).1

theorem version_eq_of_readVersion {σ : Type} [Described σ] {text : Bytes} {version : UInt64}
    {document : Document σ} (hversion : readVersion text = .ok version)
    (hdocument : ofJson (Document σ) text = .ok document) :
    document.version.toNat = version.toNat :=
  (hasVersion_of_ofJson hdocument).unique (hasVersion_of_readVersion hversion)

/-! ## Dispatch -/

section

variable {text : Bytes}

theorem load_eq_migrate {version : UInt64} (hversion : readVersion text = .ok version)
    (hne : version ≠ currentVersion.toUInt64) : load text = migrate text := by
  rw [load, hversion, Result.ok_bind, if_neg hne]

theorem migrate_unsupported {version : UInt64} (hversion : readVersion text = .ok version)
    (hlegacy : version ≠ legacyVersion.toUInt64) (hcurrent : version ≠ currentVersion.toUInt64) :
    migrate text = .error (.unsupportedVersion version) := by
  rw [migrate, hversion, Result.ok_bind, if_neg hlegacy, if_neg hcurrent]

theorem migrate_current (hversion : readVersion text = .ok currentVersion.toUInt64) :
    migrate text = .error (.shapeMismatch .alreadyCurrent) := by
  rw [migrate, hversion, Result.ok_bind, if_neg (by decide), if_pos rfl]

theorem exists_of_migrate {document : Document State} (h : migrate text = .ok document) :
    readVersion text = .ok legacyVersion.toUInt64 ∧ document = .current document.state := by
  obtain ⟨version, hversion, h⟩ := bind_eq_ok_iff.1 h
  by_cases hlegacy : version = legacyVersion.toUInt64
  · rw [if_pos hlegacy] at h
    obtain ⟨old, -, h⟩ := bind_eq_ok_iff.1 h
    cases h
    exact ⟨hlegacy ▸ hversion, rfl⟩
  · rw [if_neg hlegacy] at h
    split at h <;> cases h

theorem exists_legacy_of_migrate {document : Document State} (h : migrate text = .ok document) :
    ∃ old, ofJson (Document LegacyState) text = .ok ⟨1, old⟩ ∧
      document = .current old.migrate := by
  have hversion := (exists_of_migrate h).1
  rw [migrate, hversion, Result.ok_bind, if_pos rfl] at h
  obtain ⟨⟨found, old⟩, hold, hmigrated⟩ := bind_eq_ok_iff.1 h
  have hread := readBody_eq_ok_iff.1 hold
  obtain rfl : found = 1 := UInt32.toNat_inj.1 (version_eq_of_readVersion hversion hread)
  cases hmigrated
  exact ⟨old, hread, rfl⟩

theorem load_of_migrate {document : Document State} (h : migrate text = .ok document) :
    load text = .ok document := by
  have hversion := (exists_of_migrate h).1
  rw [load_eq_migrate hversion (by decide), h]

theorem eq_current_of_load {document : Document State} (h : load text = .ok document) :
    document = .current document.state := by
  obtain ⟨version, hversion, h⟩ := bind_eq_ok_iff.1 h
  by_cases hcurrent : version = currentVersion.toUInt64
  · rw [if_pos hcurrent] at h
    have hsame := version_eq_of_readVersion hversion (readBody_eq_ok_iff.1 h)
    have hvalue : document.version = currentVersion := by
      rw [hcurrent] at hsame
      exact UInt32.toNat_inj.1 hsame
    obtain ⟨found, state⟩ := document
    obtain rfl : found = currentVersion := hvalue
    rfl
  · rw [if_neg hcurrent] at h
    exact (exists_of_migrate h).2

end

theorem unambiguous_header : (shapeOf Header).Unambiguous := by
  simp [shapeOf, Described.shape, Shape.Unambiguous, Fields.Unambiguous, Fields.names]

theorem readVersion_of_writes_header {version : UInt64} {text : Bytes}
    (h : Writes text (Header.mk version)) : readVersion text = .ok version :=
  readVersion_eq_ok_iff.2 (h.ofJson unambiguous_header)

/-- What is loaded from any text is current, is loaded again from both texts that are written for it
and is not carried over once more. What is carried over from a text is also loaded from it. The
version that a text is dispatched by is the number that is written there, and the one that the text
has as a document of either schema. A text of any other version is refused with that number, and
every number of 64 bits is one that a text can have. -/
theorem loaded_documents_are_settled (text : Bytes) :
    (∀ document, load text = .ok document → document.version = 2 ∧
      ∀ written, Writes written document →
        load written = .ok document ∧
          migrate written = .error (.shapeMismatch .alreadyCurrent)) ∧
    (∀ document, migrate text = .ok document → load text = .ok document) ∧
    (∀ version, readVersion text = .ok version → HasVersion text version.toNat ∧
      (∀ document, ofJson (Document LegacyState) text = .ok document →
        document.version.toNat = version.toNat) ∧
      (∀ document, ofJson (Document State) text = .ok document →
        document.version.toNat = version.toNat) ∧
      (version ≠ 1 → version ≠ 2 →
        load text = .error (.unsupportedVersion version) ∧
          migrate text = .error (.unsupportedVersion version))) ∧
    ∀ version, Writes text (Header.mk version) → readVersion text = .ok version := by
  refine ⟨?_, fun document => load_of_migrate, ?_, fun version => readVersion_of_writes_header⟩
  · intro document hload
    have hcurrent := eq_current_of_load hload
    generalize document.state = state at hcurrent
    subst hcurrent
    refine ⟨rfl, fun written hwritten => ⟨load_of_writes hwritten, ?_⟩⟩
    exact migrate_current (readVersion_of_writes hwritten)
  · intro version hversion
    refine ⟨hasVersion_of_readVersion hversion, ?_, ?_, ?_⟩
    · intro document hdocument
      exact version_eq_of_readVersion hversion hdocument
    · intro document hdocument
      exact version_eq_of_readVersion hversion hdocument
    · intro hlegacy hcurrent
      have hmigrate := migrate_unsupported hversion hlegacy hcurrent
      rw [load_eq_migrate hversion hcurrent, hmigrate]
      exact ⟨rfl, rfl⟩

def legacyText : Bytes := toJson (Document.mk 1 LegacyState.sample)

/-- A text whose version is that of the current schema in its lower 32 bits. -/
def distantText : Bytes := toJson (Header.mk 0x100000002)

theorem loaded_documents_are_settled_sample :
    (migrate legacyText = .ok (.current LegacyState.sample.migrate) ∧
      load legacyText = .ok (.current LegacyState.sample.migrate) ∧
      load (toJson (Document.current LegacyState.sample.migrate)) =
        .ok (.current LegacyState.sample.migrate) ∧
      migrate (toJson (Document.current LegacyState.sample.migrate)) =
        .error (.shapeMismatch .alreadyCurrent)) ∧
    (readVersion legacyText = .ok 1 ∧
      ofJson (Document LegacyState) legacyText = .ok ⟨1, LegacyState.sample⟩ ∧
      (Document.mk 1 LegacyState.sample).version.toNat = (1 : UInt64).toNat) ∧
    readVersion distantText = .ok 0x100000002 ∧
      load distantText = .error (.unsupportedVersion 0x100000002) ∧
      migrate distantText = .error (.unsupportedVersion 0x100000002) := by
  have hwrites : Writes legacyText (Document.mk 1 LegacyState.sample) := .inl rfl
  have hmigrated : migrate legacyText = .ok (.current LegacyState.sample.migrate) :=
    migrate_of_writes hwrites
  have hversion : readVersion legacyText = .ok 1 := readVersion_of_writes hwrites
  have hdocument := hwrites.ofJson unambiguous_legacy
  obtain ⟨hsettled, hagree, hversions, -⟩ := loaded_documents_are_settled legacyText
  have hloaded := hagree _ hmigrated
  obtain ⟨-, hagain⟩ := hsettled _ hloaded
  obtain ⟨hreloaded, hrefused⟩ := hagain _ (.inl rfl)
  obtain ⟨-, -, hdistant, hnumber⟩ := loaded_documents_are_settled distantText
  have hread := hnumber 0x100000002 (.inl rfl)
  obtain ⟨hload, hmigrate⟩ := (hdistant _ hread).2.2.2 (by decide) (by decide)
  exact ⟨⟨hmigrated, hloaded, hreloaded, hrefused⟩,
    ⟨hversion, hdocument, (hversions 1 hversion).2.1 _ hdocument⟩, hread, hload, hmigrate⟩

end EnclaveRegistry.Genesis
