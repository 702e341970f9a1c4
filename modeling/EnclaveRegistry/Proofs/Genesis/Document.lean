import EnclaveRegistry.Genesis.Migration
import EnclaveRegistry.Proofs.Schema.Json

/-! # Current documents are read back

The version of a document is found without a look at its state, and a document of the current
version is read whole. So a text that is written for a current document is loaded as it.
-/
namespace EnclaveRegistry.Genesis

open Schema (Described Fields Shape Writes shapeOf treeOf)

theorem unambiguous_current : (shapeOf (Document State)).Unambiguous := by
  simp [shapeOf, Described.shape, Shape.Unambiguous, Fields.Unambiguous, Fields.names]

variable {σ : Type} [Described σ]

theorem treeOf_document (document : Document σ) :
    treeOf document = .object
      [(.ofString "schema_version", .numeral (.ofNat document.version.toNat)),
        (.ofString "registration", treeOf document.state)] .closed := by
  rfl

/-- A header reads the version of a document and skips its state. -/
theorem read_header (document : Document σ) :
    (shapeOf Header).read (treeOf document) = .ok (document.version.toUInt64, ()) := by
  let fields : Fields := .cons "schema_version" (.natural .eight) .nil
  let version : UInt64 := document.version.toUInt64
  have hnumeral : Schema.Width.eight.read (.numeral (.ofNat document.version.toNat)) =
      .ok version := Schema.Width.read_ofNat .eight version
  have hversion : fields.fill "schema_version" (.numeral (.ofNat document.version.toNat))
      fields.noSlots = .ok (some (some version, ())) := by
    rw [Fields.fill, if_pos rfl, Shape.read, hnumeral]
    rfl
  have hstate : fields.fill "registration" (treeOf document.state) (some version, ()) =
      .ok none := by
    rw [Fields.fill, if_neg (by decide)]
    rfl
  have hskip : (treeOf document.state).skipFault? = none :=
    Json.skipFault?_eq_none _ (Schema.treeOf_isWritten document.state)
  have hmembers : Schema.readMembers false fields.names fields.fill fields.noSlots
      [(.ofString "schema_version", .numeral (.ofNat document.version.toNat)),
        (.ofString "registration", treeOf document.state)] = .ok (some version, ()) := by
    simp only [Schema.readMembers, Schema.contentOf_ofString, Result.ok_bind, hversion, hstate,
      hskip, Schema.check, Schema.within]
    rfl
  rw [treeOf_document]
  change (Shape.record "VersionHeader" false fields).read _ = _
  rw [Shape.read]
  simp only [hmembers, Result.ok_bind]
  rfl

theorem readVersion_of_writes {document : Document σ} {text : Bytes} (h : Writes text document) :
    readVersion text = .ok document.version.toUInt64 := by
  rw [readVersion, Schema.ofJson, Schema.Shape.readDocument_eq h.read, read_header]
  rfl

theorem load_of_writes {state : State} {text : Bytes} (h : Writes text (Document.current state)) :
    load text = .ok (.current state) := by
  have hversion : readVersion text = .ok currentVersion.toUInt64 := readVersion_of_writes h
  have hbody : readBody State text = .ok (.current state) := by
    rw [readBody, h.ofJson unambiguous_current]
  rw [load, hversion]
  exact hbody

end EnclaveRegistry.Genesis
