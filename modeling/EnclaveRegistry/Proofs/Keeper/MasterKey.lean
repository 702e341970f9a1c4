import EnclaveRegistry.Proofs.Keeper.Outcome

/-! # The first master keys stay

A master key that is set stays set, and where keys may be set only once it stays the same. A network
is set up only where no key is set yet, so that at most one is.
-/
namespace EnclaveRegistry

/-! ## Single updates -/

namespace Update

variable {keeper : Keeper} {store : MemoryStore} {update : Update} {events : List Event}

theorem Ends.isLocked_eq_false_of_mem {result : Except KeeperError Answer} {entry : Entry}
    {type : MasterKeyType} (h : Ends keeper store update result events)
    (hentry : entry ∈ Event.entries events) (hkey : entry.1 = type.storeKey) :
    keeper.isLocked store type = false := by
  cases h with
  | @keySet other key unlocked =>
    obtain rfl := List.mem_singleton.1 hentry
    obtain rfl := MasterKeyType.storeKey_inj.1 hkey
    exact unlocked
  | @recordSet record identity accepted =>
    obtain rfl := List.mem_singleton.1 hentry
    exact absurd hkey (identity.nodeId.storeKey_ne type)
  | @registered certificate enclave identity seed accepted fresh granted =>
    obtain rfl := List.mem_singleton.1 hentry
    exact absurd hkey (identity.nodeId.storeKey_ne type)
  | networkSet undefined => exact Keeper.isLocked_of_definedMasterKey?_eq_none undefined type
  | @genesisLoaded state proven valid unlocked records accepted =>
    simp only [Event.entries_append, entries_masterKeyEvents?, entries_recordsEvents,
      Event.entries_noticed, Event.entries_nil, List.append_nil, List.mem_append,
      Option.mem_toList, Option.map_eq_some_iff, List.mem_map] at hentry
    rcases hentry with ⟨key, hcarried, rfl⟩ | ⟨key, hcarried, rfl⟩ | ⟨⟨identity, record⟩, -, rfl⟩
    · obtain rfl := MasterKeyType.storeKey_inj.1 hkey
      exact Keeper.isLocked_of_conflict?_eq_none unlocked (Option.isSome_of_eq_some hcarried)
    · obtain rfl := MasterKeyType.storeKey_inj.1 hkey
      exact Keeper.isLocked_of_conflict?_eq_none unlocked (Option.isSome_of_eq_some hcarried)
    · exact absurd hkey (identity.nodeId.storeKey_ne type)
  | _ => cases hentry

theorem Ends.mem_entries_of_carriesKey {answer : Answer} {type : MasterKeyType} {key : MasterKey}
    (h : Ends keeper store update (.ok answer) events) (hcarried : update.CarriesKey type key) :
    masterKeyEntry type key ∈ Event.entries events := by
  cases h with
  | keySet =>
    obtain ⟨rfl, rfl⟩ := hcarried
    exact List.mem_singleton.2 rfl
  | recordSet => cases hcarried
  | registrationKnown => cases hcarried
  | registered => cases hcarried
  | networkSet =>
    cases type with
    | nodeExchange =>
      obtain rfl := hcarried
      simp
    | io =>
      obtain rfl := hcarried
      simp
  | @genesisLoaded state =>
    cases type with
    | nodeExchange =>
      have hkey : state.nodeExchangeKey = some key := hcarried
      simp [hkey]
    | io =>
      have hkey : state.ioKey = some key := hcarried
      simp [hkey]

theorem Ends.isMasterKeyDefined_of_carriesKey {answer : Answer} {type : MasterKeyType}
    {key : MasterKey} (h : Ends keeper store update (.ok answer) events)
    (hcarried : update.CarriesKey type key) :
    Query.isMasterKeyDefined (writeAll store (Event.entries events)) type = true :=
  MemoryStore.isSome_get?_writeAll_of_mem (h.mem_entries_of_carriesKey hcarried) store

/-- Where keys may be set only once, no update writes to one that is set. -/
theorem Ends.get?_masterKey_of_setOnce {result : Except KeeperError Answer} {type : MasterKeyType}
    (h : Ends keeper store update result events) (hpolicy : keeper.policy = .setOnce)
    (hdefined : Query.isMasterKeyDefined store type = true) :
    KeyValueStore.get? (writeAll store (Event.entries events)) type.storeKey =
      KeyValueStore.get? store type.storeKey := by
  refine MemoryStore.get?_writeAll_of_forall_ne (fun entry hentry hkey => ?_) store
  have hunlocked := h.isLocked_eq_false_of_mem hentry hkey
  rw [Keeper.isLocked, hpolicy, hdefined] at hunlocked
  cases hunlocked

theorem Ends.masterKeys_of_bootstrapNetwork {certificate : Certificate}
    {nodeExchangeKey ioKey : MasterKey} {enclave : Enclave} {answer : Answer}
    (h : Ends keeper store (.bootstrapNetwork certificate nodeExchangeKey ioKey enclave)
      (.ok answer) events) :
    (∀ type, Query.isMasterKeyDefined store type = false) ∧
      KeyValueStore.get? (writeAll store (Event.entries events))
        MasterKeyType.nodeExchange.storeKey = some (Schema.toRecord nodeExchangeKey) ∧
      KeyValueStore.get? (writeAll store (Event.entries events)) MasterKeyType.io.storeKey =
        some (Schema.toRecord ioKey) := by
  cases h with
  | @networkSet _ _ _ _ identity seed undefined accepted granted =>
    refine ⟨Keeper.isMasterKeyDefined_of_definedMasterKey?_eq_none undefined, ?_, ?_⟩
    · simp [MemoryStore.get?_set, MasterKeyType.storeKey_ne]
    · simp [MemoryStore.get?_set, MasterKeyType.storeKey_ne]

end Update

/-! ## Runs -/

abbrev Exchange := Operation × KeeperReply

namespace Exchange

/-- Whether an update that brings a master key has succeeded. -/
def SetsKey : Exchange → Prop
  | (.update update, reply) => reply.result.isOk ∧ ∃ type key, update.CarriesKey type key
  | (.inquiry _, _) => False

def foundsNetwork : Exchange → Bool
  | (.update (.bootstrapNetwork _ _ _ _), reply) => reply.result.isOk
  | _ => false

theorem SetsKey.of_foundsNetwork {exchange : Exchange} (h : exchange.foundsNetwork = true) :
    exchange.SetsKey := by
  obtain ⟨operation, reply⟩ := exchange
  cases operation with
  | inquiry => cases h
  | update update =>
    cases update with
    | bootstrapNetwork certificate nodeExchangeKey ioKey enclave =>
      exact ⟨h, .nodeExchange, nodeExchangeKey, rfl⟩
    | _ => cases h

end Exchange

namespace Keeper

def exchanges (keeper : Keeper) (operations : List Operation) (session : Session MemoryStore) :
    List Exchange :=
  operations.zip (keeper.run operations session).1

variable {keeper : Keeper} {operations : List Operation} {type : MasterKeyType}

theorem exchanges_cons (operation : Operation) (rest : List Operation)
    (session : Session MemoryStore) :
    keeper.exchanges (operation :: rest) session =
      (operation, (operation.perform keeper session).1) ::
        keeper.exchanges rest (operation.perform keeper session).2 := rfl

theorem isMasterKeyDefined_perform (operation : Operation) {session : Session MemoryStore}
    (h : Query.isMasterKeyDefined session.store type = true) :
    Query.isMasterKeyDefined (operation.perform keeper session).2.store type = true := by
  cases operation with
  | inquiry => exact h
  | update update =>
    obtain ⟨result, events, hends, hrun⟩ := update.run_perform keeper session
    rw [Operation.perform, hrun]
    exact MemoryStore.isSome_get?_writeAll h (Event.entries events)

theorem exists_isMasterKeyDefined_of_setsKey {operation : Operation}
    {session : Session MemoryStore}
    (h : Exchange.SetsKey (operation, (operation.perform keeper session).1)) :
    ∃ type, Query.isMasterKeyDefined (operation.perform keeper session).2.store type = true := by
  cases operation with
  | inquiry => cases h
  | update update =>
    obtain ⟨hok, type, key, hcarried⟩ := h
    obtain ⟨result, events, hends, hrun⟩ := update.run_perform keeper session
    rw [Operation.perform, hrun] at hok ⊢
    cases result with
    | error => cases hok
    | ok answer => exact ⟨type, hends.isMasterKeyDefined_of_carriesKey hcarried⟩

theorem foundsNetwork_eq_false_of_isMasterKeyDefined (operation : Operation)
    {session : Session MemoryStore} (h : Query.isMasterKeyDefined session.store type = true) :
    Exchange.foundsNetwork (operation, (operation.perform keeper session).1) = false := by
  cases operation with
  | inquiry => rfl
  | update update =>
    cases update with
    | bootstrapNetwork certificate nodeExchangeKey ioKey enclave =>
      obtain ⟨result, events, hends, hrun⟩ := Update.run_perform keeper session
        (.bootstrapNetwork certificate nodeExchangeKey ioKey enclave)
      rw [Operation.perform, hrun]
      cases result with
      | error => rfl
      | ok answer =>
        have hundefined := hends.masterKeys_of_bootstrapNetwork.1 type
        rw [h] at hundefined
        cases hundefined
    | _ => rfl

theorem foundsNetwork_eq_false_of_mem_exchanges {session : Session MemoryStore}
    (h : Query.isMasterKeyDefined session.store type = true) :
    ∀ exchange ∈ keeper.exchanges operations session, exchange.foundsNetwork = false := by
  induction operations generalizing session with
  | nil => exact fun exchange hexchange => absurd hexchange List.not_mem_nil
  | cons operation rest ih =>
    intro exchange hexchange
    rw [exchanges_cons] at hexchange
    rcases List.mem_cons.1 hexchange with rfl | hexchange
    · exact foundsNetwork_eq_false_of_isMasterKeyDefined operation h
    · exact ih (isMasterKeyDefined_perform operation h) exchange hexchange

theorem pairwise_exchanges (keeper : Keeper) (operations : List Operation)
    (session : Session MemoryStore) :
    (keeper.exchanges operations session).Pairwise fun earlier later =>
      earlier.SetsKey → later.foundsNetwork = false := by
  induction operations generalizing session with
  | nil => exact .nil
  | cons operation rest ih =>
    rw [exchanges_cons]
    refine List.pairwise_cons.2 ⟨fun later hlater hsets => ?_, ih _⟩
    obtain ⟨type, hdefined⟩ := exists_isMasterKeyDefined_of_setsKey hsets
    exact foundsNetwork_eq_false_of_mem_exchanges hdefined later hlater

/-- Where each network that is set up forbids all later ones, there is at most one. -/
theorem countP_foundsNetwork_le_one {exchanges : List Exchange}
    (h : exchanges.Pairwise fun earlier later => earlier.SetsKey → later.foundsNetwork = false) :
    exchanges.countP Exchange.foundsNetwork ≤ 1 := by
  induction exchanges with
  | nil => exact Nat.zero_le 1
  | cons exchange rest ih =>
    obtain ⟨hhead, hrest⟩ := List.pairwise_cons.1 h
    cases hfounds : exchange.foundsNetwork with
    | false =>
      rw [List.countP_cons_of_neg (by simp [hfounds])]
      exact ih hrest
    | true =>
      have hnone : rest.countP Exchange.foundsNetwork = 0 := by
        refine List.countP_eq_zero.2 fun later hlater => ?_
        simp [hhead later hlater (.of_foundsNetwork hfounds)]
      rw [List.countP_cons_of_pos hfounds, hnone]

/-- From any store on, a master key that is defined stays defined, and where keys may be set only
once it stays octet by octet the same. A network is set up only where no key is defined, and then
with exactly the given keys; over a run that happens at most once, and never behind an update that
has set a key. -/
theorem first_master_keys_stay (keeper : Keeper) (session : Session MemoryStore)
    (operations : List Operation) :
    (∀ type, Query.isMasterKeyDefined session.store type = true →
      Query.isMasterKeyDefined (keeper.run operations session).2.store type = true ∧
        (keeper.policy = .setOnce →
          KeyValueStore.get? (keeper.run operations session).2.store type.storeKey =
            KeyValueStore.get? session.store type.storeKey)) ∧
    (∀ certificate nodeExchangeKey ioKey enclave answer final,
      ((Update.bootstrapNetwork certificate nodeExchangeKey ioKey enclave).perform keeper).run
        session = (.ok answer, final) →
      (∀ type, Query.isMasterKeyDefined session.store type = false) ∧
        KeyValueStore.get? final.store MasterKeyType.nodeExchange.storeKey =
          some (Schema.toRecord nodeExchangeKey) ∧
        KeyValueStore.get? final.store MasterKeyType.io.storeKey =
          some (Schema.toRecord ioKey)) ∧
    ((keeper.exchanges operations session).Pairwise fun earlier later =>
      earlier.SetsKey → later.foundsNetwork = false) ∧
    (keeper.exchanges operations session).countP Exchange.foundsNetwork ≤ 1 := by
  have hpairwise := pairwise_exchanges keeper operations session
  refine ⟨fun type hdefined => ?_, ?_, hpairwise, countP_foundsNetwork_le_one hpairwise⟩
  · refine run_store_induction (P := fun store => Query.isMasterKeyDefined store type = true ∧
      (keeper.policy = .setOnce → KeyValueStore.get? store type.storeKey =
        KeyValueStore.get? session.store type.storeKey)) ?_ session ⟨hdefined, fun _ => rfl⟩
    rintro update store result events - ⟨hstore, hsame⟩ hends
    refine ⟨MemoryStore.isSome_get?_writeAll hstore _, fun hpolicy => ?_⟩
    rw [hends.get?_masterKey_of_setOnce hpolicy hstore, hsame hpolicy]
  · intro certificate nodeExchangeKey ioKey enclave answer final hrun
    obtain ⟨result, events, hends, hperform⟩ := Update.run_perform keeper session
      (.bootstrapNetwork certificate nodeExchangeKey ioKey enclave)
    rw [hrun] at hperform
    obtain ⟨rfl, rfl⟩ := Prod.mk.inj hperform
    exact hends.masterKeys_of_bootstrapNetwork

theorem first_master_keys_stay_sample :
    (Query.isMasterKeyDefined Session.sample.store .io = true ∧
      (Keeper.plain .setOnce).policy = .setOnce ∧
      KeyValueStore.get? ((Keeper.plain .setOnce).run
        [.update (.setMasterKey .io ⟨[2]⟩), .update (.setMasterKey .nodeExchange ⟨[3]⟩)]
        Session.sample).2.store MasterKeyType.io.storeKey =
          KeyValueStore.get? Session.sample.store MasterKeyType.io.storeKey) ∧
    (((Update.bootstrapNetwork ⟨[7]⟩ ⟨[1]⟩ ⟨[2]⟩ .mock).perform (.plain .overwrite)).run
        ⟨MemoryStore.empty, []⟩).1 = .ok (.node ⟨[7]⟩) ∧
      KeyValueStore.get? (((Update.bootstrapNetwork ⟨[7]⟩ ⟨[1]⟩ ⟨[2]⟩ .mock).perform
        (.plain .overwrite)).run ⟨MemoryStore.empty, []⟩).2.store MasterKeyType.io.storeKey =
          some (Schema.toRecord (MasterKey.mk [2])) := by
  obtain ⟨hstay, -⟩ := first_master_keys_stay (.plain .setOnce) Session.sample
    [.update (.setMasterKey .io ⟨[2]⟩), .update (.setMasterKey .nodeExchange ⟨[3]⟩)]
  obtain ⟨-, hnetwork, -⟩ := first_master_keys_stay (.plain .overwrite) ⟨.empty, []⟩ []
  refine ⟨⟨rfl, rfl, (hstay .io rfl).2 rfl⟩, rfl, ?_⟩
  exact (hnetwork ⟨[7]⟩ ⟨[1]⟩ ⟨[2]⟩ .mock (.node ⟨[7]⟩) _ rfl).2.2

end Keeper
end EnclaveRegistry
