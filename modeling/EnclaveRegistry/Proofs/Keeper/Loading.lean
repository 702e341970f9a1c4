import EnclaveRegistry.Proofs.Keeper.Admission
import EnclaveRegistry.Proofs.Keeper.Restoration
import EnclaveRegistry.Proofs.Schema.Canonical

/-! # What loading a state does

The master keys and the records of a state that is admitted are laid over the store, where of the
records of one node the last one counts. What is laid over the empty store is exported again.
-/
namespace EnclaveRegistry

open Genesis (State)

namespace Keeper

variable (keeper : Keeper)

/-- Whether a record is the last one whose certificate proves a node. -/
def LastOf (records : List NodeRecord) (id : NodeId) (record : NodeRecord) : Prop :=
  ∃ before after, records = before ++ record :: after ∧ keeper.Proves record id ∧
    ∀ later ∈ after, ¬ keeper.Proves later id

variable {keeper}

theorem exists_lastOf {records : List NodeRecord} {id : NodeId}
    (h : ∃ record ∈ records, keeper.Proves record id) :
    ∃ record, keeper.LastOf records id record := by
  induction records with
  | nil =>
    obtain ⟨record, hrecord, -⟩ := h
    exact absurd hrecord List.not_mem_nil
  | cons head rest ih =>
    by_cases hrest : ∃ record ∈ rest, keeper.Proves record id
    · obtain ⟨record, before, after, rfl, hproves, hlast⟩ := ih hrest
      exact ⟨record, head :: before, after, rfl, hproves, hlast⟩
    · obtain ⟨record, hrecord, hproves⟩ := h
      have hnot : ∀ later ∈ rest, ¬ keeper.Proves later id :=
        fun later hlater hproves => hrest ⟨later, hlater, hproves⟩
      rcases List.mem_cons.1 hrecord with rfl | hrecord
      · exact ⟨record, [], rest, rfl, hproves, hnot⟩
      · exact absurd hproves (hnot record hrecord)

/-- A store with the master keys and the records of a state laid over another one. -/
structure Overlays (keeper : Keeper) (state : State) (before after : MemoryStore) : Prop where
  masterKey : ∀ {type key}, state.masterKey? type = some key →
    KeyValueStore.get? after type.storeKey = some (Schema.toRecord key)
  record : ∀ {id record}, keeper.LastOf state.records id record →
    KeyValueStore.get? after id.storeKey = some (Schema.toRecord record)
  rest : ∀ {key}, (∀ type, (state.masterKey? type).isSome → type.storeKey ≠ key) →
    (∀ id, (∃ record ∈ state.records, keeper.Proves record id) → id.storeKey ≠ key) →
      KeyValueStore.get? after key = KeyValueStore.get? before key

theorem Overlays.unique {state : State} {before a b : MemoryStore}
    (ha : keeper.Overlays state before a) (hb : keeper.Overlays state before b) : a = b := by
  refine MemoryStore.ext_get? fun key => ?_
  by_cases hkey : ∃ type, (state.masterKey? type).isSome ∧ type.storeKey = key
  · obtain ⟨type, hsome, rfl⟩ := hkey
    obtain ⟨masterKey, hmasterKey⟩ := Option.isSome_iff_exists.1 hsome
    rw [ha.masterKey hmasterKey, hb.masterKey hmasterKey]
  by_cases hid : ∃ id, (∃ record ∈ state.records, keeper.Proves record id) ∧ id.storeKey = key
  · obtain ⟨id, hproven, rfl⟩ := hid
    obtain ⟨record, hlast⟩ := exists_lastOf hproven
    rw [ha.record hlast, hb.record hlast]
  · have hkeys : ∀ type, (state.masterKey? type).isSome → type.storeKey ≠ key :=
      fun type hsome heq => hkey ⟨type, hsome, heq⟩
    have hids : ∀ id, (∃ record ∈ state.records, keeper.Proves record id) → id.storeKey ≠ key :=
      fun id hproven heq => hid ⟨id, hproven, heq⟩
    rw [ha.rest hkeys hids, hb.rest hkeys hids]

end Keeper

namespace Update

variable {keeper : Keeper} {store : MemoryStore} {state : State} {events : List Event}

theorem exists_entries_of_lastOf {proven : List (Identity × NodeRecord)} {id : NodeId}
    {record : NodeRecord}
    (haccepted : ∀ entry ∈ proven, keeper.Accepts entry.2.certificate entry.1)
    (h : keeper.LastOf (proven.map Prod.snd) id record) :
    ∃ before after, Event.entries (recordsEvents proven) =
        before ++ recordEntry id record :: after ∧ ∀ entry ∈ after, entry.1 ≠ id.storeKey := by
  obtain ⟨before, after, hrecords, ⟨identity, haccepts, rfl⟩, hlast⟩ := h
  obtain ⟨earlier, others, rfl, rfl, hothers⟩ := List.map_eq_append_iff.1 hrecords
  obtain ⟨entry, later, rfl, rfl, rfl⟩ := List.map_eq_cons_iff.1 hothers
  have hentry : entry.1 = identity := (haccepted entry (by simp)).unique haccepts
  refine ⟨Event.entries (recordsEvents earlier), Event.entries (recordsEvents later), ?_, ?_⟩
  · rw [← hentry]
    simp
  · rw [entries_recordsEvents]
    intro written hwritten heq
    obtain ⟨other, hother, rfl⟩ := List.mem_map.1 hwritten
    have hproves : keeper.Proves other.2 identity.nodeId :=
      ⟨other.1, haccepted other (by simp [hother]), NodeId.storeKey_inj.1 heq⟩
    exact hlast other.2 (List.mem_map_of_mem hother) hproves

theorem exists_proves_of_mem_recordsEvents {proven : List (Identity × NodeRecord)}
    (haccepted : ∀ entry ∈ proven, keeper.Accepts entry.2.certificate entry.1) {entry : Entry}
    (h : entry ∈ Event.entries (recordsEvents proven)) :
    ∃ id, (∃ record ∈ proven.map Prod.snd, keeper.Proves record id) ∧ id.storeKey = entry.1 := by
  rw [entries_recordsEvents] at h
  obtain ⟨other, hother, rfl⟩ := List.mem_map.1 h
  exact ⟨other.1.nodeId,
    ⟨other.2, List.mem_map_of_mem hother, other.1, haccepted other hother, rfl⟩, rfl⟩

theorem isSome_of_mem_masterKeyEvents? {type : MasterKeyType} {key : Option MasterKey}
    {entry : Entry} (h : entry ∈ Event.entries (masterKeyEvents? type key)) :
    key.isSome ∧ type.storeKey = entry.1 := by
  cases key with
  | none => cases h
  | some key =>
    obtain rfl := List.mem_singleton.1 h
    exact ⟨rfl, rfl⟩

/-- A load that succeeds lays the state over the store. -/
theorem Ends.overlays {answer : Answer}
    (h : Ends keeper store (.loadGenesis state) (.ok answer) events) :
    keeper.Overlays state store (writeAll store (Event.entries events)) := by
  cases h with
  | @genesisLoaded _ proven valid unlocked records accepted =>
    let node := Event.entries (masterKeyEvents? .nodeExchange state.nodeExchangeKey)
    let io := Event.entries (masterKeyEvents? .io state.ioKey)
    let nodes := Event.entries (recordsEvents proven)
    have hentries : Event.entries (masterKeyEvents? .nodeExchange state.nodeExchangeKey ++
        (masterKeyEvents? .io state.ioKey ++
          (recordsEvents proven ++ [.noticed (.genesisLoaded state.records.length)]))) =
        node ++ (io ++ nodes) := by
      simp [node, io, nodes]
    have hnodes : ∀ entry ∈ nodes,
        ∃ id, (∃ record ∈ state.records, keeper.Proves record id) ∧ id.storeKey = entry.1 := by
      intro entry hentry
      rw [← records]
      exact exists_proves_of_mem_recordsEvents accepted hentry
    have hne (type : MasterKeyType) : ∀ entry ∈ nodes, entry.1 ≠ type.storeKey := by
      intro entry hentry heq
      obtain ⟨id, -, hid⟩ := hnodes entry hentry
      exact id.storeKey_ne type (hid.trans heq)
    have hmasterKey : ∀ entry ∈ node ++ io,
        ∃ type, (state.masterKey? type).isSome ∧ type.storeKey = entry.1 := by
      intro entry hentry
      rcases List.mem_append.1 hentry with hentry | hentry
      · exact ⟨.nodeExchange, isSome_of_mem_masterKeyEvents? hentry⟩
      · exact ⟨.io, isSome_of_mem_masterKeyEvents? hentry⟩
    rw [hentries]
    -- The two keys are written before all records, so nothing that follows one has its key.
    refine ⟨?_, ?_, ?_⟩
    · intro type key hkey
      cases type with
      | nodeExchange =>
        have hkey : state.nodeExchangeKey = some key := hkey
        have hnode : node = [masterKeyEntry .nodeExchange key] := by
          simp only [node, hkey]
          rfl
        have hafter : ∀ entry ∈ io ++ nodes, entry.1 ≠ MasterKeyType.nodeExchange.storeKey := by
          intro entry hentry
          rcases List.mem_append.1 hentry with hentry | hentry
          · rw [← (isSome_of_mem_masterKeyEvents? hentry).2]
            decide
          · exact hne .nodeExchange entry hentry
        rw [hnode]
        exact MemoryStore.get?_writeAll_last store [] hafter
      | io =>
        have hkey : state.ioKey = some key := hkey
        have hio : io = [masterKeyEntry .io key] := by
          simp only [io, hkey]
          rfl
        rw [hio]
        exact MemoryStore.get?_writeAll_last store node (hne .io)
    · intro id record hlast
      rw [← records] at hlast
      obtain ⟨before, after, hsplit, hafter⟩ := exists_entries_of_lastOf accepted hlast
      have hlastEntry : node ++ (io ++ nodes) =
          (node ++ io ++ before) ++ recordEntry id record :: after := by
        simp only [nodes, hsplit, List.append_assoc]
      rw [hlastEntry]
      exact MemoryStore.get?_writeAll_last store _ hafter
    · intro key hkeys hids
      refine MemoryStore.get?_writeAll_of_forall_ne (fun entry hentry heq => ?_) store
      rw [← List.append_assoc] at hentry
      rcases List.mem_append.1 hentry with hentry | hentry
      · obtain ⟨type, hsome, htype⟩ := hmasterKey entry hentry
        exact hkeys type hsome (htype.trans heq)
      · obtain ⟨id, hproven, hid⟩ := hnodes entry hentry
        exact hids id hproven (hid.trans heq)

end Update

namespace Keeper

variable {keeper : Keeper} {state : State}

theorem overlays_of_loadGenesis {session : Session MemoryStore}
    (h : ((keeper.loadGenesis state).run session).1 = .ok ()) :
    keeper.Overlays state session.store ((keeper.loadGenesis state).run session).2.store := by
  obtain ⟨result, events, hends, hrun⟩ := run_loadGenesis_ends keeper session state
  rw [hrun] at h ⊢
  cases result with
  | ok _ => exact hends.overlays
  | error error => cases h

/-! ## Records of different nodes -/

def Distinct (keeper : Keeper) (records : List NodeRecord) : Prop :=
  records.Pairwise fun a b => ∀ id, keeper.Proves a id → ¬ keeper.Proves b id

theorem Distinct.perm {records others : List NodeRecord} (h : keeper.Distinct records)
    (hperm : others.Perm records) : keeper.Distinct others := by
  refine (hperm.pairwise_iff ?_).2 h
  intro a b hab id hb ha
  exact hab id ha hb

theorem LastOf.mem {records : List NodeRecord} {id : NodeId} {record : NodeRecord}
    (h : keeper.LastOf records id record) : record ∈ records := by
  obtain ⟨before, after, rfl, -, -⟩ := h
  simp

theorem Distinct.lastOf_iff {records : List NodeRecord} (h : keeper.Distinct records)
    {id : NodeId} {record : NodeRecord} :
    keeper.LastOf records id record ↔ record ∈ records ∧ keeper.Proves record id := by
  constructor
  · intro hlast
    have hrecord := hlast.mem
    obtain ⟨-, -, -, hproves, -⟩ := hlast
    exact ⟨hrecord, hproves⟩
  · rintro ⟨hrecord, hproves⟩
    obtain ⟨before, after, rfl⟩ := List.append_of_mem hrecord
    obtain ⟨-, hafter, -⟩ := List.pairwise_append.1 h
    obtain ⟨hrest, -⟩ := List.pairwise_cons.1 hafter
    exact ⟨before, after, rfl, hproves, fun later hlater => hrest later hlater id hproves⟩

theorem masterKey?_records (state : State) (records : List NodeRecord) (type : MasterKeyType) :
    ({ state with records := records } : State).masterKey? type = state.masterKey? type := by
  cases type <;> rfl

variable {records : List NodeRecord}

theorem Admits.perm {store : MemoryStore} (h : keeper.Admits store state)
    (hperm : records.Perm state.records) :
    keeper.Admits store { state with records := records } where
  filled record hrecord := h.filled record (hperm.mem_iff.1 hrecord)
  unlocked type hconflict := by
    rw [Conflicts, masterKey?_records] at hconflict
    exact h.unlocked type hconflict
  accepted record hrecord := h.accepted record (hperm.mem_iff.1 hrecord)

theorem Overlays.perm {before after : MemoryStore}
    (h : keeper.Overlays { state with records := records } before after)
    (hperm : records.Perm state.records) (hdistinct : keeper.Distinct state.records) :
    keeper.Overlays state before after where
  masterKey {type key} hkey := by
    rw [← masterKey?_records state records] at hkey
    exact h.masterKey hkey
  record {id record} hlast := by
    rw [hdistinct.lastOf_iff, ← hperm.mem_iff] at hlast
    exact h.record ((hdistinct.perm hperm).lastOf_iff.2 hlast)
  rest {key} hkeys hids := by
    refine h.rest (fun type hsome => ?_) (fun id hproven => ?_)
    · rw [masterKey?_records] at hsome
      exact hkeys type hsome
    · obtain ⟨record, hrecord, hproves⟩ := hproven
      exact hids id ⟨record, hperm.mem_iff.1 hrecord, hproves⟩

/-! ## Loads into an empty store -/

/-- The store of a state that is laid over the empty one stands for a registry with the last record
of each node and the master keys of the state. -/
theorem Overlays.registry {after : MemoryStore} {registry : Registry}
    (h : keeper.Overlays state .empty after) (hstored : registry.StoredIn after)
    (hfits : (Update.loadGenesis state).Fits) :
    registry.masterKey? = state.masterKey? ∧
      ∀ id record, registry.records[id]? = some record ↔ keeper.LastOf state.records id record := by
  constructor
  · funext type
    refine Schema.eq_of_map_toRecord (fun key hkey => (hstored.masterKeyFits hkey).schema)
      (fun key hkey => (hfits.2 type key hkey).schema) ?_
    rw [← hstored.masterKey]
    cases hkey : state.masterKey? type with
    | some key => exact h.masterKey hkey
    | none =>
      refine h.rest (fun other hsome heq => ?_) fun id _ => id.storeKey_ne type
      rw [MasterKeyType.storeKey_inj.1 heq, hkey] at hsome
      cases hsome
  · have hlast {id : NodeId} {record : NodeRecord}
        (hlast : keeper.LastOf state.records id record) :
        registry.records[id]? = some record := by
      refine Schema.eq_of_map_toRecord (fun found hfound => (hstored.recordFits hfound).schema)
        (fun found hfound => ?_) ?_
      · obtain rfl := Option.some.inj hfound
        exact (hfits.1 _ hlast.mem).schema
      · rw [← hstored.record]
        exact h.record hlast
    intro id record
    refine ⟨fun hrecord => ?_, hlast⟩
    -- A record that the state does not prove would have been in the empty store.
    by_cases hproven : ∃ record ∈ state.records, keeper.Proves record id
    · obtain ⟨last, hlast'⟩ := exists_lastOf hproven
      have hsame := hlast hlast'
      rw [hrecord] at hsame
      cases hsame
      exact hlast'
    · have hnone : KeyValueStore.get? after id.storeKey = KeyValueStore.get? MemoryStore.empty
          id.storeKey := by
        refine h.rest (fun type _ => type.storeKey_ne id) fun other hother heq => ?_
        rw [NodeId.storeKey_inj.1 heq] at hother
        exact hproven hother
      rw [hstored.record, hrecord] at hnone
      cases hnone

theorem exported_of_loadGenesis {trace : List Event} (hfits : (Update.loadGenesis state).Fits)
    (h : ((keeper.loadGenesis state).run ⟨MemoryStore.empty, trace⟩).1 = .ok ()) :
    ∃ entries : List RegistrationEntry,
      Query.state ((keeper.loadGenesis state).run ⟨MemoryStore.empty, trace⟩).2.store =
        .ok ⟨entries.map RegistrationEntry.record, state.nodeExchangeKey, state.ioKey⟩ ∧
      entries.Pairwise (fun a b => a.nodeId < b.nodeId) ∧
      ∀ entry, entry ∈ entries ↔ keeper.LastOf state.records entry.nodeId entry.record := by
  let operation := Operation.update (.loadGenesis state)
  have hfits' : operation.Fits := hfits
  obtain ⟨-, hstored, -⟩ := Registry.empty_storedIn.perform keeper hfits' trace
  have hsession : (operation.perform keeper ⟨.empty, trace⟩).2 =
      ((keeper.loadGenesis state).run ⟨MemoryStore.empty, trace⟩).2 := by
    cases hrun : (keeper.loadGenesis state).run ⟨MemoryStore.empty, trace⟩ with
    | mk result final => rw [Operation.perform, Update.perform, Transaction.run_map hrun]
  rw [hsession] at hstored
  obtain ⟨hkeys, hrecords⟩ := (overlays_of_loadGenesis h).registry hstored hfits
  refine ⟨(Registry.empty.perform keeper operation).2.entries, ?_,
    Registry.pairwise_entries _, fun entry => ?_⟩
  · rw [hstored.readState, Registry.state, hkeys]
    rfl
  · rw [Registry.mem_entries, hrecords]

/-- A load succeeds if the state is admitted, and otherwise fails with the error for the first
fault of the state. If it succeeds, the state has been laid over the store: from an empty store
the last record of each node is exported, and the order of records of different nodes does not
matter. -/
theorem loading_lays_state_over_store (keeper : Keeper) (session : Session MemoryStore)
    (state : State) :
    (((keeper.loadGenesis state).run session).1 = .ok () ↔ keeper.Admits session.store state) ∧
    (∀ error, ((keeper.loadGenesis state).run session).1 = .error error ↔
      keeper.LoadFault session.store state error) ∧
    (keeper.Admits session.store state →
      (∀ after, after = ((keeper.loadGenesis state).run session).2.store ↔
        keeper.Overlays state session.store after) ∧
      (session.store = .empty → (Update.loadGenesis state).Fits →
        ∃ entries : List RegistrationEntry,
          Query.state ((keeper.loadGenesis state).run session).2.store =
            .ok ⟨entries.map RegistrationEntry.record, state.nodeExchangeKey, state.ioKey⟩ ∧
          entries.Pairwise (fun a b => a.nodeId < b.nodeId) ∧
          ∀ entry, entry ∈ entries ↔ keeper.LastOf state.records entry.nodeId entry.record) ∧
      ∀ records, records.Perm state.records → keeper.Distinct state.records →
        ((keeper.loadGenesis { state with records := records }).run session).1 = .ok () ∧
        ((keeper.loadGenesis { state with records := records }).run session).2.store =
          ((keeper.loadGenesis state).run session).2.store) := by
  refine ⟨loadGenesis_eq_ok_iff session state, loadGenesis_eq_error_iff session state, ?_⟩
  intro hadmits
  have hok := (loadGenesis_eq_ok_iff session state).2 hadmits
  have hoverlays := overlays_of_loadGenesis hok
  refine ⟨fun after => ⟨?_, fun h => h.unique hoverlays⟩, ?_, ?_⟩
  · rintro rfl
    exact hoverlays
  · intro hempty hfits
    obtain ⟨store, trace⟩ := session
    obtain rfl : store = .empty := hempty
    exact exported_of_loadGenesis hfits hok
  · intro records hperm hdistinct
    have hok' := (loadGenesis_eq_ok_iff session _).2 (hadmits.perm hperm)
    have hsame := ((overlays_of_loadGenesis hok').perm hperm hdistinct).unique hoverlays
    exact ⟨hok', hsame⟩

def twiceRegistered : State :=
  ⟨[⟨⟨[7]⟩, none⟩, ⟨⟨[3]⟩, none⟩, ⟨⟨[7]⟩, some ⟨[1]⟩⟩], none, some ⟨[5]⟩⟩

theorem fits_twiceRegistered : (Update.loadGenesis twiceRegistered).Fits := by
  refine ⟨fun record hrecord => ?_, fun type key hkey => ?_⟩
  · have hrecord : record ∈ twiceRegistered.records := hrecord
    simp only [twiceRegistered, List.mem_cons, List.not_mem_nil, or_false] at hrecord
    rcases hrecord with rfl | rfl | rfl <;> simp [NodeRecord.Fits, UInt64.size]
  · cases type with
    | nodeExchange => cases hkey
    | io =>
      cases hkey
      exact (by decide : 1 < UInt64.size)

theorem distinct_pair : (plain .setOnce).Distinct [⟨⟨[7]⟩, none⟩, ⟨⟨[3]⟩, none⟩] := by
  refine List.pairwise_pair.2 ?_
  rintro id ⟨first, hfirst, rfl⟩ ⟨second, hsecond, hsame⟩
  obtain rfl : (⟨.mock, [7]⟩ : Identity) = first := Except.ok.inj hfirst
  obtain rfl : (⟨.mock, [3]⟩ : Identity) = second := Except.ok.inj hsecond
  exact absurd hsame (by decide)

theorem loading_lays_state_over_store_twice :
    let load (state : State) := ((plain .setOnce).loadGenesis state).run ⟨MemoryStore.empty, []⟩
    (∃ entries : List RegistrationEntry,
      Query.state (load twiceRegistered).2.store =
        .ok ⟨entries.map RegistrationEntry.record, none, some ⟨[5]⟩⟩ ∧
      ⟨⟨[7]⟩, ⟨⟨[7]⟩, some ⟨[1]⟩⟩⟩ ∈ entries) ∧
    (load ⟨[⟨⟨[3]⟩, none⟩, ⟨⟨[7]⟩, none⟩], none, none⟩).2.store =
      (load ⟨[⟨⟨[7]⟩, none⟩, ⟨⟨[3]⟩, none⟩], none, none⟩).2.store := by
  intro load
  obtain ⟨hok, -, hloaded⟩ :=
    loading_lays_state_over_store (plain .setOnce) ⟨.empty, []⟩ twiceRegistered
  obtain ⟨hok', -, hordered⟩ :=
    loading_lays_state_over_store (plain .setOnce) ⟨.empty, []⟩
      ⟨[⟨⟨[7]⟩, none⟩, ⟨⟨[3]⟩, none⟩], none, none⟩
  obtain ⟨-, hexport, -⟩ := hloaded (hok.1 rfl)
  obtain ⟨-, -, hperm⟩ := hordered (hok'.1 rfl)
  obtain ⟨entries, hstate, -, hentries⟩ := hexport rfl fits_twiceRegistered
  refine ⟨⟨entries, hstate, (hentries _).2 ?_⟩, ?_⟩
  · exact ⟨[⟨⟨[7]⟩, none⟩, ⟨⟨[3]⟩, none⟩], [], rfl, ⟨⟨.mock, [7]⟩, rfl, rfl⟩, nofun⟩
  · exact (hperm [⟨⟨[3]⟩, none⟩, ⟨⟨[7]⟩, none⟩] (.swap ..) distinct_pair).2

end Keeper
end EnclaveRegistry
