import EnclaveRegistry.Proofs.Keeper.Outcome

/-! # Updates that fail do nothing

An update that fails has written nothing on the way. What an update of several writes checks first
is all that its writes can be refused for, although each of them checks again.
-/
namespace EnclaveRegistry

namespace Update

variable {keeper : Keeper} {store : MemoryStore} {update : Update} {events : List Event}

theorem Ends.entries_eq_nil {error : KeeperError}
    (h : Ends keeper store update (.error error) events) : Event.entries events = [] := by
  cases h <;> rfl

theorem Ends.genesisLoaded_of_checked {state : Genesis.State} {result : Except KeeperError Answer}
    (h : Ends keeper store (.loadGenesis state) result events) (hvalid : state.validate = .ok ())
    (hunlocked : keeper.conflict? store state = none)
    (haccepted : ∀ record ∈ state.records,
      ∃ identity, keeper.Accepts record.certificate identity) : result = .ok .done := by
  cases h with
  | genesisInvalid invalid => rw [hvalid] at invalid; cases invalid
  | genesisConflict _ conflict => rw [hunlocked] at conflict; cases conflict
  | @genesisRefused _ _ record _ _ _ _ records _ refused =>
    obtain ⟨identity, hidentity⟩ := haccepted record (by rw [records]; simp)
    exact absurd refused hidentity.not_refuses
  | genesisLoaded => rfl

theorem accepted_of_run_checkRecords {records : List NodeRecord} {session : Session MemoryStore}
    (h : ((keeper.checkRecords 0 records).run session).1 = .ok ()) :
    ∀ record ∈ records, ∃ identity, keeper.Accepts record.certificate identity := by
  rcases Keeper.accepted_or_refused keeper records with
    ⟨proven, rfl, haccepted⟩ | ⟨before, record, rest, error, rfl, hbefore, hrefused⟩
  · intro record hrecord
    obtain ⟨entry, hentry, rfl⟩ := List.mem_map.1 hrecord
    exact ⟨entry.1, haccepted entry hentry⟩
  · rw [Keeper.run_checkRecords_refused hbefore hrefused] at h
    cases h

/-- An update that fails leaves the store as it was and writes nothing on the way. Once the checks
of a genesis state or of a first node have passed, none of the writes that follow fails. -/
theorem failed_updates_are_atomic (keeper : Keeper) (session : Session MemoryStore) :
    (∀ (update : Update) (error : KeeperError) (final : Session MemoryStore),
      (update.perform keeper).run session = (.error error, final) →
        final.store = session.store ∧
          ∃ events, final.trace = session.trace ++ events ∧ Event.entries events = []) ∧
    (∀ state : Genesis.State, state.validate = .ok () →
      keeper.conflict? session.store state = none →
      ((keeper.checkRecords 0 state.records).run session).1 = .ok () →
        (((loadGenesis state).perform keeper).run session).1 = .ok .done) ∧
    ∀ (certificate : Certificate) (nodeExchangeKey ioKey : MasterKey) (enclave : Enclave)
      (identity : Identity) (seed : Bytes), Keeper.definedMasterKey? session.store = none →
      keeper.identify certificate = .ok identity →
      enclave.genesisSeed identity.publicKey = .ok seed →
        (((bootstrapNetwork certificate nodeExchangeKey ioKey enclave).perform keeper).run
          session).1 = .ok (.node identity.nodeId) := by
  refine ⟨?_, ?_, ?_⟩
  · intro update error final hrun
    obtain ⟨result, events, hends, hperform⟩ := run_perform keeper session update
    rw [hrun] at hperform
    obtain ⟨rfl, rfl⟩ := Prod.mk.inj hperform
    have hnone := hends.entries_eq_nil
    exact ⟨session.after_store_of_entries_eq_nil hnone, events, rfl, hnone⟩
  · intro state hvalid hunlocked hchecked
    obtain ⟨result, events, hends, hperform⟩ := run_perform keeper session (.loadGenesis state)
    rw [hperform]
    exact hends.genesisLoaded_of_checked hvalid hunlocked (accepted_of_run_checkRecords hchecked)
  · intro certificate nodeExchangeKey ioKey enclave identity seed hundefined hidentify hgranted
    have haccepted : keeper.Accepts certificate identity := Keeper.accepts_of_identify hidentify
    obtain ⟨result, events, hends, hperform⟩ := run_perform keeper session
      (.bootstrapNetwork certificate nodeExchangeKey ioKey enclave)
    rw [hperform]
    exact (hends.unique (.networkSet hundefined haccepted hgranted)).1

def keyedSession : Session MemoryStore :=
  ⟨KeyValueStore.set MemoryStore.empty MasterKeyType.io.storeKey
    (Schema.toRecord (MasterKey.mk [1])), []⟩

theorem failed_updates_are_atomic_set_once :
    (((setMasterKey .io ⟨[2]⟩).perform (.plain .setOnce)).run keyedSession =
        (.error (.alreadyDefined .io), keyedSession) ∧
      ∃ events, keyedSession.trace = keyedSession.trace ++ events ∧ Event.entries events = []) ∧
    (Genesis.State.validate ⟨[⟨⟨[7]⟩, none⟩], some ⟨[2]⟩, none⟩ = .ok () ∧
      (Keeper.plain .setOnce).conflict? keyedSession.store ⟨[⟨⟨[7]⟩, none⟩], some ⟨[2]⟩, none⟩ =
        none ∧
      (((Keeper.plain .setOnce).checkRecords 0 [⟨⟨[7]⟩, none⟩]).run keyedSession).1 = .ok () ∧
      (((loadGenesis ⟨[⟨⟨[7]⟩, none⟩], some ⟨[2]⟩, none⟩).perform (.plain .setOnce)).run
        keyedSession).1 = .ok .done) ∧
    (Keeper.definedMasterKey? MemoryStore.empty = none ∧
      (Keeper.plain .setOnce).identify ⟨[7]⟩ = .ok ⟨.mock, [7]⟩ ∧
      Enclave.mock.genesisSeed [7] = .ok [] ∧
      (((bootstrapNetwork ⟨[7]⟩ ⟨[1]⟩ ⟨[2]⟩ .mock).perform (.plain .setOnce)).run
        ⟨MemoryStore.empty, []⟩).1 = .ok (.node ⟨[7]⟩)) := by
  obtain ⟨hfailed, hgenesis, -⟩ := failed_updates_are_atomic (.plain .setOnce) keyedSession
  obtain ⟨-, -, hnetwork⟩ := failed_updates_are_atomic (.plain .setOnce) ⟨MemoryStore.empty, []⟩
  refine ⟨⟨rfl, ?_⟩, ⟨rfl, rfl, rfl, ?_⟩, rfl, rfl, rfl, ?_⟩
  · exact (hfailed (setMasterKey .io ⟨[2]⟩) _ _ rfl).2
  · exact hgenesis ⟨[⟨⟨[7]⟩, none⟩], some ⟨[2]⟩, none⟩ rfl rfl rfl
  · exact hnetwork ⟨[7]⟩ ⟨[1]⟩ ⟨[2]⟩ .mock ⟨.mock, [7]⟩ [] rfl rfl rfl

end Update
end EnclaveRegistry
