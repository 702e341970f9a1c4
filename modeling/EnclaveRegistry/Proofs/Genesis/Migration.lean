import EnclaveRegistry.Proofs.Genesis.Document
import EnclaveRegistry.Schema.Record

/-! # Older documents are carried over unchanged

A document of the first schema is read from every text that is written for it. Its state comes out
in the current schema with every record and key octet by octet, and a record is written in both
schemas alike.
-/
namespace EnclaveRegistry.Genesis

open Schema (Described Fields Shape Writes ofJson shapeOf toJson toPrettyJson toRecord treeOf)

theorem readVersion_eq_ok_iff {text : Bytes} {version : UInt64} :
    readVersion text = .ok version ↔ ofJson Header text = .ok ⟨version⟩ := by
  rw [readVersion]
  cases ofJson Header text with
  | error failure => simp
  | ok header => cases header; simp

theorem readBody_eq_ok_iff {σ : Type} [Described σ] {text : Bytes} {document : Document σ} :
    readBody σ text = .ok document ↔ ofJson (Document σ) text = .ok document := by
  rw [readBody]
  cases ofJson (Document σ) text <;> simp

theorem unambiguous_legacy : (shapeOf (Document LegacyState)).Unambiguous := by
  simp [shapeOf, Described.shape, Shape.Unambiguous, Fields.Unambiguous, Fields.names]

theorem migrate_of_writes {state : LegacyState} {text : Bytes}
    (h : Writes text (Document.mk legacyVersion state)) :
    migrate text = .ok (.current state.migrate) := by
  have hversion : readVersion text = .ok legacyVersion.toUInt64 := readVersion_of_writes h
  have hbody := readBody_eq_ok_iff.2 (h.ofJson unambiguous_legacy)
  rw [migrate, hversion, Result.ok_bind, if_pos rfl, hbody]
  rfl

/-! ## Records -/

namespace LegacyRecord

variable (record : LegacyRecord)

@[simp] theorem migrate_certificate : record.migrate.certificate.octets = record.certificate := rfl

/-- A seed that is missing stays missing, and one that is empty stays there. -/
@[simp] theorem migrate_seed : record.migrate.seed.map EncryptedSeed.octets = record.seed := by
  simp [migrate, Function.comp_def]

theorem treeOf_migrate : treeOf record.migrate = treeOf record := by
  obtain ⟨certificate, seed⟩ := record
  cases seed with
  | none => rfl
  | some seed => rfl

theorem toRecord_migrate : toRecord record.migrate = toRecord record := by
  obtain ⟨certificate, seed⟩ := record
  cases seed with
  | none => rfl
  | some seed => rfl

end LegacyRecord

/-- Whatever records and keys a state of the first schema has, an older document is carried over
from both texts that are written for it. Version, number and order of records, certificates, seeds
and keys come out as they went in, and every record is written alike in both schemas. -/
theorem migration_keeps_payloads (state : LegacyState) (text : Bytes)
    (h : Writes text (Document.mk 1 state)) :
    ∃ document, migrate text = .ok document ∧ document.version = 2 ∧
      document.state.records.length = state.records.length ∧
      (∀ (index : Nat) (old : LegacyRecord), state.records[index]? = some old →
        ∃ new : NodeRecord, document.state.records[index]? = some new ∧
          new.certificate.octets = old.certificate ∧
          new.seed.map EncryptedSeed.octets = old.seed ∧
          toJson new = toJson old ∧ toPrettyJson new = toPrettyJson old ∧
          toRecord new = toRecord old) ∧
      document.state.masterKey? .nodeExchange = some ⟨state.nodeExchangeKey⟩ ∧
      document.state.masterKey? .io = some ⟨state.ioKey⟩ := by
  have hmigrate : migrate text = .ok (.current state.migrate) := migrate_of_writes h
  refine ⟨_, hmigrate, rfl, ?_, ?_, rfl, rfl⟩
  · exact List.length_map LegacyRecord.migrate
  · intro index old hold
    have hnew : (Document.current state.migrate).state.records[index]? = some old.migrate := by
      simp [Document.current, LegacyState.migrate, hold]
    have htree := old.treeOf_migrate
    refine ⟨old.migrate, hnew, old.migrate_certificate, old.migrate_seed, ?_, ?_,
      old.toRecord_migrate⟩
    · rw [toJson, htree, toJson]
    · rw [toPrettyJson, htree, toPrettyJson]

def LegacyState.sample : LegacyState := ⟨[⟨[7], none⟩, ⟨[8], some []⟩], [1], [2]⟩

theorem migration_keeps_payloads_sample :
    Writes (toPrettyJson (Document.mk 1 LegacyState.sample)) (Document.mk 1 LegacyState.sample) ∧
    ∃ document, migrate (toPrettyJson (Document.mk 1 LegacyState.sample)) = .ok document ∧
      document.state.records.length = 2 ∧
      (∃ new : NodeRecord, document.state.records[1]? = some new ∧ new.certificate.octets = [8] ∧
        new.seed.map EncryptedSeed.octets = some []) ∧
      document.state.masterKey? .nodeExchange = some ⟨[1]⟩ ∧
      document.state.masterKey? .io = some ⟨[2]⟩ := by
  have hwrites : Writes (toPrettyJson (Document.mk 1 LegacyState.sample))
      (Document.mk 1 LegacyState.sample) := .inr rfl
  obtain ⟨document, hmigrate, -, hlength, hrecords, hnode, hio⟩ :=
    migration_keeps_payloads LegacyState.sample _ hwrites
  obtain ⟨new, hnew, hcertificate, hseed, -⟩ := hrecords 1 ⟨[8], some []⟩ rfl
  exact ⟨hwrites, document, hmigrate, hlength, ⟨new, hnew, hcertificate, hseed⟩, hnode, hio⟩

end EnclaveRegistry.Genesis
