import EnclaveRegistry.Keeper.Start
import EnclaveRegistry.Proofs.Genesis.Version
import EnclaveRegistry.Proofs.Keeper.Loading
import EnclaveRegistry.Proofs.Schema.Size

/-! # Starts from a document

A start depends on a text through the document alone, and on the keeper through its verifier alone:
an empty store has no master key that a policy could protect. No payload is longer than the text,
and so what a start stores can be read.
-/
namespace EnclaveRegistry

open Genesis (State)

/-! ## The size of what is loaded -/

namespace Genesis

open Schema (Described shapeOf)

variable {limit : Nat} {text : Bytes}

theorem within_migrate {old : LegacyState}
    (h : (shapeOf LegacyState).Within limit (Described.view old)) :
    (shapeOf State).Within limit (Described.view old.migrate) := by
  obtain ⟨hrecords, hnode, hio, -⟩ := h
  refine ⟨fun value hvalue => ?_, fun key hkey => ?_, fun key hkey => ?_, trivial⟩
  · obtain ⟨record, hrecord, rfl⟩ := List.mem_map.1 hvalue
    obtain ⟨legacy, hlegacy, rfl⟩ := List.mem_map.1 hrecord
    obtain ⟨hcertificate, hseed, -⟩ := hrecords _ (List.mem_map_of_mem hlegacy)
    refine ⟨hcertificate, fun seed hmem => hseed seed ?_, trivial⟩
    have hmem : seed ∈ legacy.migrate.seed.map EncryptedSeed.octets := hmem
    rwa [LegacyRecord.migrate_seed] at hmem
  · cases hkey
    exact ⟨hnode, trivial⟩
  · cases hkey
    exact ⟨hio, trivial⟩

/-- No payload of a document is longer than the text that it is loaded from. -/
theorem within_of_load {document : Document State} (h : load text = .ok document) :
    (shapeOf State).Within text.length (Described.view document.state) := by
  obtain ⟨version, hversion, h⟩ := Result.bind_eq_ok_iff.1 h
  by_cases hcurrent : version = currentVersion.toUInt64
  · rw [if_pos hcurrent] at h
    exact (Schema.within_of_ofJson (readBody_eq_ok_iff.1 h)).2.1
  · rw [if_neg hcurrent] at h
    obtain ⟨old, hold, rfl⟩ := exists_legacy_of_migrate h
    exact within_migrate (Schema.within_of_ofJson hold).2.1

theorem fits_of_within {state : State} (h : (shapeOf State).Within limit (Described.view state))
    (hlimit : limit < UInt64.size) : (Update.loadGenesis state).Fits := by
  obtain ⟨hrecords, hnode, hio, -⟩ := h
  refine ⟨fun record hrecord => ?_, fun type key hkey => ?_⟩
  · obtain ⟨hcertificate, hseed, -⟩ := hrecords _ (List.mem_map_of_mem hrecord)
    refine ⟨Nat.lt_of_le_of_lt hcertificate hlimit, fun seed hmem => ?_⟩
    exact Nat.lt_of_le_of_lt (hseed _ (Option.mem_map_of_mem _ hmem)) hlimit
  · cases type with
    | nodeExchange =>
      exact Nat.lt_of_le_of_lt (hnode _ (Option.mem_map_of_mem _ hkey)).1 hlimit
    | io => exact Nat.lt_of_le_of_lt (hio _ (Option.mem_map_of_mem _ hkey)).1 hlimit

end Genesis

/-! ## How a start ends -/

namespace Keeper

variable {keeper : Keeper} {text : Bytes}

def loadEmpty (keeper : Keeper) (state : State) : Except KeeperError Unit × Session MemoryStore :=
  (keeper.loadGenesis state).run ⟨.empty, []⟩

theorem start_of_load {document : Genesis.Document State} (h : Genesis.load text = .ok document) :
    keeper.start text =
      ((keeper.loadEmpty document.state).1.map fun _ =>
        ⟨document, (keeper.loadEmpty document.state).2.store⟩).mapError StartError.state := by
  rw [start, h]
  dsimp only [loadEmpty]
  cases (keeper.loadGenesis document.state : Transaction MemoryStore Unit).run ⟨.empty, []⟩ with
  | mk result session => cases result <;> rfl

/-- A start succeeds if there is a document whose state is admitted, and lays the state over the
empty store. -/
theorem start_eq_ok_iff {loaded : Loaded} : keeper.start text = .ok loaded ↔
    Genesis.load text = .ok loaded.document ∧ keeper.Admits .empty loaded.document.state ∧
      keeper.Overlays loaded.document.state .empty loaded.store := by
  constructor
  · intro h
    cases hload : Genesis.load text with
    | error error =>
      rw [start, hload] at h
      cases h
    | ok document =>
      rw [start_of_load hload] at h
      cases hresult : (keeper.loadEmpty document.state).1 with
      | error error =>
        rw [hresult] at h
        cases h
      | ok _ =>
        rw [hresult] at h
        cases h
        exact ⟨rfl, (loadGenesis_eq_ok_iff _ _).1 hresult, overlays_of_loadGenesis hresult⟩
  · rintro ⟨hload, hadmits, hoverlays⟩
    have hresult : (keeper.loadEmpty loaded.document.state).1 = .ok () :=
      (loadGenesis_eq_ok_iff _ _).2 hadmits
    have hstore : (keeper.loadEmpty loaded.document.state).2.store = loaded.store :=
      (overlays_of_loadGenesis hresult).unique hoverlays
    rw [start_of_load hload, hresult, hstore]
    rfl

theorem start_eq_error_iff {error : StartError} : keeper.start text = .error error ↔
    (∃ fault, Genesis.load text = .error fault ∧ error = .document fault) ∨
      ∃ document fault, Genesis.load text = .ok document ∧
        keeper.LoadFault .empty document.state fault ∧ error = .state fault := by
  constructor
  · intro h
    cases hload : Genesis.load text with
    | error fault =>
      rw [start, hload] at h
      cases h
      exact .inl ⟨fault, rfl, rfl⟩
    | ok document =>
      rw [start_of_load hload] at h
      cases hresult : (keeper.loadEmpty document.state).1 with
      | error fault =>
        rw [hresult] at h
        cases h
        exact .inr ⟨document, fault, rfl, (loadGenesis_eq_error_iff _ _ _).1 hresult, rfl⟩
      | ok _ =>
        rw [hresult] at h
        cases h
  · rintro (⟨fault, hload, rfl⟩ | ⟨document, fault, hload, hfault, rfl⟩)
    · rw [start, hload]
    · have hresult : (keeper.loadEmpty document.state).1 = .error fault :=
        (loadGenesis_eq_error_iff _ _ _).2 hfault
      rw [start_of_load hload, hresult]
      rfl

/-! ## Policies -/

variable {verifier : Verifier} {policy other : MasterKeyPolicy} {state : State}

theorem not_conflicts_empty (type : MasterKeyType) : ¬ keeper.Conflicts .empty state type := by
  rintro ⟨-, -, h⟩
  cases h

theorem Admits.with_policy (h : (Keeper.mk verifier policy).Admits .empty state) :
    (Keeper.mk verifier other).Admits .empty state :=
  ⟨h.filled, not_conflicts_empty, h.accepted⟩

theorem Overlays.with_policy {before after : MemoryStore}
    (h : (Keeper.mk verifier policy).Overlays state before after) :
    (Keeper.mk verifier other).Overlays state before after :=
  ⟨h.masterKey, h.record, h.rest⟩

theorem LoadFault.with_policy {error : KeeperError}
    (h : (Keeper.mk verifier policy).LoadFault .empty state error) :
    (Keeper.mk verifier other).LoadFault .empty state error := by
  cases h with
  | emptyCertificate first => exact .emptyCertificate first
  | alreadyDefined _ conflict => exact absurd conflict (not_conflicts_empty _)
  | invalidCertificate filled _ first refused =>
    exact .invalidCertificate filled not_conflicts_empty first refused

/-- The policy has no part in a start. -/
theorem start_with_policy (verifier : Verifier) (policy other : MasterKeyPolicy) (text : Bytes) :
    (Keeper.mk verifier policy).start text = (Keeper.mk verifier other).start text := by
  cases h : (Keeper.mk verifier policy).start text with
  | ok loaded =>
    obtain ⟨hload, hadmits, hoverlays⟩ := start_eq_ok_iff.1 h
    exact (start_eq_ok_iff.2 ⟨hload, hadmits.with_policy, hoverlays.with_policy⟩).symm
  | error error =>
    refine (start_eq_error_iff.2 ?_).symm
    rcases start_eq_error_iff.1 h with hdocument | ⟨document, fault, hload, hfault, herror⟩
    · exact .inl hdocument
    · exact .inr ⟨document, fault, hload, hfault.with_policy, herror⟩

/-! ## What a started keeper holds -/

/-- The store after a start from a text shorter than `2 ^ 64` octets stands for the registry of the
document's state. -/
theorem exists_registry_of_start {loaded : Loaded} (hsize : text.length < UInt64.size)
    (h : keeper.start text = .ok loaded) :
    ∃ registry : Registry, registry.StoredIn loaded.store ∧
      registry.masterKey? = loaded.document.state.masterKey? ∧
      ∀ id record, registry.records[id]? = some record ↔
        keeper.LastOf loaded.document.state.records id record := by
  obtain ⟨hload, hadmits, hoverlays⟩ := start_eq_ok_iff.1 h
  have hfits := Genesis.fits_of_within (Genesis.within_of_load hload) hsize
  obtain ⟨result, events, hends, hrun⟩ :=
    run_loadGenesis_ends keeper ⟨.empty, []⟩ loaded.document.state
  obtain ⟨registry, -, hstored⟩ := Registry.empty_storedIn.simulates hfits hends
  -- The load laid the same state over the same store, so its writes left what the start stored.
  have hok := (loadGenesis_eq_ok_iff ⟨.empty, []⟩ _).2 hadmits
  have hstore : loaded.store = writeAll MemoryStore.empty (Event.entries events) := by
    rw [hoverlays.unique (overlays_of_loadGenesis hok), hrun]
    rfl
  rw [hstore] at hoverlays ⊢
  exact ⟨registry, hstored, hoverlays.registry hstored hfits⟩

end Keeper
end EnclaveRegistry
