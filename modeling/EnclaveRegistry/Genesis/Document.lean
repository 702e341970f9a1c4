import EnclaveRegistry.Node.Exchange

/-! # Genesis documents

A genesis document carries the whole state of a registry under the number of its schema. Schema 1
keeps both master keys as plain byte strings that are always present; schema 2, the current one,
keeps each as an optional master key.
-/
namespace EnclaveRegistry.Genesis

open Schema (Described shapeOf)

structure LegacyRecord where
  certificate : Bytes
  seed : Option Bytes
  deriving DecidableEq, Inhabited

structure LegacyState where
  records : List LegacyRecord
  nodeExchangeKey : Bytes
  ioKey : Bytes
  deriving DecidableEq, Inhabited

structure State where
  records : List NodeRecord
  nodeExchangeKey : Option MasterKey
  ioKey : Option MasterKey
  deriving DecidableEq, Inhabited

/-- A state under its schema version. -/
structure Document (σ : Type) where
  version : UInt32
  state : σ
  deriving DecidableEq, Inhabited

def legacyVersion : UInt32 := 1

def currentVersion : UInt32 := 2

namespace State

def empty : State := ⟨[], none, none⟩

def masterKey? (state : State) : MasterKeyType → Option MasterKey
  | .nodeExchange => state.nodeExchangeKey
  | .io => state.ioKey

end State

def Document.current (state : State) : Document State := ⟨currentVersion, state⟩

/-- The part of a document that tells its schema version. -/
structure Header where
  version : UInt64
  deriving DecidableEq, Inhabited

instance : Described LegacyRecord where
  shape := .record "LegacyRegistrationNodeInfo" true
    (.cons "certificate" (.bytes .base64)
      (.cons "encrypted_seed" (.optional (.bytes .base64)) .nil))
  view r := (r.certificate, r.seed, ())
  build values := ⟨values.1, values.2.1⟩
  build_view _ := rfl
  view_build _ := rfl

instance : Described LegacyState where
  shape := .record "GenesisState" true
    (.cons "registration" (shapeOf (List LegacyRecord))
      (.cons "node_exch_master_certificate" (.bytes .base64)
        (.cons "io_master_certificate" (.bytes .base64) .nil)))
  view s := (Described.view s.records, s.nodeExchangeKey, s.ioKey, ())
  build values := ⟨Described.build values.1, values.2.1, values.2.2.1⟩
  build_view _ := by simp [Described.build_view]
  view_build _ := by simp [Described.view_build]

instance : Described State where
  shape := .record "GenesisState" true
    (.cons "registration" (shapeOf (List NodeRecord))
      (.cons "node_exch_master_key" (shapeOf (Option MasterKey))
        (.cons "io_master_key" (shapeOf (Option MasterKey)) .nil)))
  view s :=
    (Described.view s.records, Described.view s.nodeExchangeKey, Described.view s.ioKey, ())
  build values :=
    ⟨Described.build values.1, Described.build values.2.1, Described.build values.2.2.1⟩
  build_view _ := by simp [Described.build_view]
  view_build _ := by simp [Described.view_build]

instance {σ : Type} [Described σ] : Described (Document σ) where
  shape := .record "GenesisDocument" true
    (.cons "schema_version" (shapeOf UInt32) (.cons "registration" (shapeOf σ) .nil))
  view d := (Described.view d.version, Described.view d.state, ())
  build values := ⟨Described.build values.1, Described.build values.2.1⟩
  build_view _ := by simp [Described.build_view]
  view_build _ := by simp [Described.view_build]

instance : Described Header where
  shape := .record "VersionHeader" false (.cons "schema_version" (shapeOf UInt64) .nil)
  view h := (Described.view h.version, ())
  build values := ⟨Described.build values.1⟩
  build_view _ := by simp [Described.build_view]
  view_build _ := by simp [Described.view_build]

end EnclaveRegistry.Genesis
