import EnclaveRegistry.Genesis.Document
import EnclaveRegistry.Schema.Json

/-! # Reading documents of any schema

The version is read first, with everything else in the text skipped; only then is the text read as
a document of that schema. A document of the first schema is carried over to the current one with
every payload unchanged. Of the log nothing is kept here: it tells that a state was carried over and
how many records it has.
-/
namespace EnclaveRegistry.Genesis

/-- Why a text is not a document of the schema that it is taken for. -/
inductive Misfit where
  | noVersion (failure : Schema.Failure)
  | body (failure : Schema.Failure)
  | alreadyCurrent
  deriving Inhabited

inductive MigrationError where
  | shapeMismatch (misfit : Misfit)
  | unsupportedVersion (version : UInt64)
  deriving Inhabited

def Misfit.message : Misfit → String
  | noVersion failure => "schema_versionを読めません: " ++ failure.message
  | body failure => failure.message
  | alreadyCurrent => s!"既に現行スキーマ(v{Decimal.text currentVersion.toNat})です"

def MigrationError.message : MigrationError → String
  | shapeMismatch misfit => "旧スキーマの形と一致しません: " ++ misfit.message
  | unsupportedVersion version => "未対応のスキーマバージョン: " ++ Decimal.text version.toNat

def LegacyRecord.migrate (record : LegacyRecord) : NodeRecord :=
  ⟨⟨record.certificate⟩, record.seed.map EncryptedSeed.mk⟩

def LegacyState.migrate (state : LegacyState) : State :=
  ⟨state.records.map LegacyRecord.migrate, some ⟨state.nodeExchangeKey⟩, some ⟨state.ioKey⟩⟩

def readVersion (text : Bytes) : Except MigrationError UInt64 :=
  match Schema.ofJson Header text with
  | .ok header => .ok header.version
  | .error failure => .error (.shapeMismatch (.noVersion failure))

def readBody (σ : Type) [Schema.Described σ] (text : Bytes) :
    Except MigrationError (Document σ) :=
  match Schema.ofJson (Document σ) text with
  | .ok document => .ok document
  | .error failure => .error (.shapeMismatch (.body failure))

/-- Carries the text of an older document over to the current schema. A document that is current
already is refused. -/
def migrate (text : Bytes) : Except MigrationError (Document State) := do
  let version ← readVersion text
  if version = legacyVersion.toUInt64 then
    let document ← readBody LegacyState text
    return .current document.state.migrate
  else if version = currentVersion.toUInt64 then .error (.shapeMismatch .alreadyCurrent)
  else .error (.unsupportedVersion version)

/-- Reads a document of any schema as one of the current schema. -/
def load (text : Bytes) : Except MigrationError (Document State) := do
  let version ← readVersion text
  if version = currentVersion.toUInt64 then readBody State text
  else migrate text

end EnclaveRegistry.Genesis
