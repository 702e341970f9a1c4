import EnclaveRegistry.Genesis.Document
import EnclaveRegistry.Node.Exchange
import EnclaveRegistry.Proofs.Schema.Canonical
import EnclaveRegistry.Proofs.Schema.Json

/-! # The kinds of data that are stored or exchanged

What holds of every described value whose shape tells its values apart holds of each kind of data:
both of its forms are read back, and neither form of one value is a form of another.
-/
namespace EnclaveRegistry

open Schema
  (Described Fields Fits Shape Writes ofJson ofRecord shapeOf toJson toPrettyJson toRecord)

/-- The kinds of data that nodes, gateways and documents store or exchange. -/
inductive Kind where
  | nodeId
  | certificate
  | encryptedSeed
  | nodeRecord
  | masterKey
  | masterKeyType
  | bootstrapMaterial
  | registerRequest
  | registerResponse
  | authenticationStatus
  | registrationEntry
  | registrationList
  | legacyRecord
  | legacyState
  | legacyDocument
  | state
  | document
  deriving DecidableEq

namespace Kind

@[reducible] def Value : Kind → Type
  | nodeId => NodeId
  | certificate => Certificate
  | encryptedSeed => EncryptedSeed
  | nodeRecord => NodeRecord
  | masterKey => MasterKey
  | masterKeyType => MasterKeyType
  | bootstrapMaterial => BootstrapMaterial
  | registerRequest => RegisterRequest
  | registerResponse => RegisterResponse
  | authenticationStatus => AuthenticationStatus
  | registrationEntry => RegistrationEntry
  | registrationList => RegistrationList
  | legacyRecord => Genesis.LegacyRecord
  | legacyState => Genesis.LegacyState
  | legacyDocument => Genesis.Document Genesis.LegacyState
  | state => Genesis.State
  | document => Genesis.Document Genesis.State

instance : (kind : Kind) → Described kind.Value
  | nodeId => inferInstanceAs (Described NodeId)
  | certificate => inferInstanceAs (Described Certificate)
  | encryptedSeed => inferInstanceAs (Described EncryptedSeed)
  | nodeRecord => inferInstanceAs (Described NodeRecord)
  | masterKey => inferInstanceAs (Described MasterKey)
  | masterKeyType => inferInstanceAs (Described MasterKeyType)
  | bootstrapMaterial => inferInstanceAs (Described BootstrapMaterial)
  | registerRequest => inferInstanceAs (Described RegisterRequest)
  | registerResponse => inferInstanceAs (Described RegisterResponse)
  | authenticationStatus => inferInstanceAs (Described AuthenticationStatus)
  | registrationEntry => inferInstanceAs (Described RegistrationEntry)
  | registrationList => inferInstanceAs (Described RegistrationList)
  | legacyRecord => inferInstanceAs (Described Genesis.LegacyRecord)
  | legacyState => inferInstanceAs (Described Genesis.LegacyState)
  | legacyDocument => inferInstanceAs (Described (Genesis.Document Genesis.LegacyState))
  | state => inferInstanceAs (Described Genesis.State)
  | document => inferInstanceAs (Described (Genesis.Document Genesis.State))

theorem unambiguous (kind : Kind) : (shapeOf kind.Value).Unambiguous := by
  cases kind <;>
    simp [shapeOf, Described.shape, Shape.Unambiguous, Fields.Unambiguous, Fields.names]

theorem fewChoices (kind : Kind) : (shapeOf kind.Value).FewChoices := by
  have hnames : 2 ≤ UInt32.size := by decide
  cases kind <;>
    simp [shapeOf, Described.shape, Shape.FewChoices, Fields.FewChoices, hnames]

/-! ## Binary forms -/

/-- The binary form of a value ends by itself, octets are read as a value only behind its form,
and no form starts with that of another value. -/
theorem records_are_canonical (kind : Kind) :
    (∀ (value : kind.Value) (rest : Bytes), Fits value →
      ofRecord kind.Value (toRecord value ++ rest) = .ok value) ∧
    (∀ (bytes : Bytes) (value : kind.Value), ofRecord kind.Value bytes = .ok value →
      Fits value ∧ toRecord value <+: bytes) ∧
    ∀ a b : kind.Value, Fits a → Fits b → (toRecord a <+: toRecord b ↔ a = b) := by
  refine ⟨?_, ?_, ?_⟩
  · intro value rest hfits
    exact Schema.ofRecord_toRecord_append value hfits rest
  · intro bytes value hread
    exact (Schema.ofRecord_eq_ok_iff kind.fewChoices).1 hread
  · intro a b ha hb
    exact Schema.toRecord_prefix_iff ha hb

theorem records_are_canonical_empty_seed :
    let seeded : NodeRecord := ⟨⟨[7]⟩, some ⟨[]⟩⟩
    let unseeded : NodeRecord := ⟨⟨[7]⟩, none⟩
    ofRecord NodeRecord (toRecord seeded ++ [9]) = .ok seeded ∧
      toRecord seeded <+: toRecord seeded ++ [9] ∧ ¬ toRecord unseeded <+: toRecord seeded := by
  intro seeded unseeded
  have hseeded : Fits seeded :=
    NodeRecord.Fits.schema ⟨by decide, by simp [seeded, UInt64.size]⟩
  have hunseeded : Fits unseeded :=
    NodeRecord.Fits.schema ⟨by decide, by simp [unseeded]⟩
  obtain ⟨hback, honly, happart⟩ := records_are_canonical nodeRecord
  have hread := hback seeded [9] hseeded
  exact ⟨hread, (honly _ seeded hread).2,
    fun h => absurd ((happart unseeded seeded hunseeded hseeded).1 h) (by decide)⟩

/-! ## JSON forms -/

theorem ofJson_of_writes {kind : Kind} {text : Bytes} {value : kind.Value}
    (h : Writes text value) : ofJson kind.Value text = .ok value :=
  h.ofJson kind.unambiguous

theorem eq_of_writes {kind : Kind} {text : Bytes} {a b : kind.Value} (ha : Writes text a)
    (hb : Writes text b) : a = b := by
  have hread := ofJson_of_writes ha
  rw [ofJson_of_writes hb] at hread
  exact (Except.ok.inj hread).symm

/-- A value is read back from both of its texts, different values have different texts, and to
read a text, write what was read and read that is to read once. -/
theorem texts_round_trip (kind : Kind) :
    (∀ value : kind.Value, ofJson kind.Value (toJson value) = .ok value ∧
      ofJson kind.Value (toPrettyJson value) = .ok value) ∧
    (∀ a b : kind.Value, (toJson a = toJson b ↔ a = b) ∧
      (toPrettyJson a = toPrettyJson b ↔ a = b)) ∧
    ∀ text : Bytes,
      (ofJson kind.Value text >>= fun value => ofJson kind.Value (toJson value)) =
        ofJson kind.Value text ∧
      (ofJson kind.Value text >>= fun value => ofJson kind.Value (toPrettyJson value)) =
        ofJson kind.Value text := by
  have hcompact (value : kind.Value) : ofJson kind.Value (toJson value) = .ok value :=
    ofJson_of_writes (.inl rfl)
  have hpretty (value : kind.Value) : ofJson kind.Value (toPrettyJson value) = .ok value :=
    ofJson_of_writes (.inr rfl)
  refine ⟨fun value => ⟨hcompact value, hpretty value⟩, ?_, ?_⟩
  · intro a b
    exact ⟨⟨fun h => eq_of_writes (.inl rfl) (.inl h), congrArg toJson⟩,
      ⟨fun h => eq_of_writes (.inr rfl) (.inr h), congrArg toPrettyJson⟩⟩
  · intro text
    cases hread : ofJson kind.Value text with
    | error failure => exact ⟨rfl, rfl⟩
    | ok value => exact ⟨hcompact value, hpretty value⟩

end Kind
end EnclaveRegistry
