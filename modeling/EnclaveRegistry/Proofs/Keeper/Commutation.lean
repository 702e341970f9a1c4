import EnclaveRegistry.Proofs.Keeper.Provisioning
import Mathlib.Data.List.Pairwise
import Mathlib.Data.List.Perm.Basic

/-! # Independent updates commute

What an update reads stands under the keys that it may write under. Updates that share none of them
end each as if it were alone, and leave the same store in whatever order they come.
-/
namespace EnclaveRegistry

namespace Keeper

variable {keeper : Keeper} {a b : MemoryStore}

theorem definedMasterKey?_congr (h : ∀ type : MasterKeyType,
    KeyValueStore.get? b type.storeKey = KeyValueStore.get? a type.storeKey) :
    definedMasterKey? b = definedMasterKey? a := by
  have hdefined (type : MasterKeyType) :
      Query.isMasterKeyDefined b type = Query.isMasterKeyDefined a type := by
    rw [Query.isMasterKeyDefined, Query.isMasterKeyDefined, h]
  exact congrArg (List.find? · MasterKeyType.all) (funext hdefined)

theorem conflict?_congr {state : Genesis.State} (h : ∀ type, (state.masterKey? type).isSome →
    KeyValueStore.get? b type.storeKey = KeyValueStore.get? a type.storeKey) :
    keeper.conflict? b state = keeper.conflict? a state := by
  have htype (type : MasterKeyType) : ((state.masterKey? type).isSome && keeper.isLocked b type) =
      ((state.masterKey? type).isSome && keeper.isLocked a type) := by
    by_cases hsome : (state.masterKey? type).isSome
    · rw [isLocked_congr (h type hsome)]
    · simp [hsome]
  rw [conflict?, conflict?]
  simp only [htype]

end Keeper

namespace Update

variable {keeper : Keeper} {update first second : Update} {store : MemoryStore}
  {result other : Except KeeperError Answer} {events others : List Event}

/-- How an update ends depends on nothing but what stands in its footprint. -/
theorem Ends.congr {after : MemoryStore} (h : Ends keeper store update result events)
    (hsame : ∀ key, update.Footprint keeper key →
      KeyValueStore.get? after key = KeyValueStore.get? store key) :
    Ends keeper after update result events := by
  -- The four things that an update looks up, each of them inside the footprint.
  have hlocked {type key} (heq : update = setMasterKey type key) :
      keeper.isLocked after type = keeper.isLocked store type := by
    subst heq
    exact Keeper.isLocked_congr (hsame _ rfl)
  have hseed {certificate enclave identity} (heq : update = register certificate enclave)
      (haccepted : keeper.Accepts certificate identity) :
      Query.provisionedSeed after identity.nodeId =
        Query.provisionedSeed store identity.nodeId := by
    subst heq
    have hkey := hsame _ ⟨_, ⟨identity, haccepted, rfl⟩, rfl⟩
    exact Query.provisionedSeed_congr (Query.nodeRecord_congr hkey)
  have hdefined {certificate nodeExchangeKey ioKey enclave}
      (heq : update = bootstrapNetwork certificate nodeExchangeKey ioKey enclave) :
      Keeper.definedMasterKey? after = Keeper.definedMasterKey? store := by
    subst heq
    exact Keeper.definedMasterKey?_congr fun type => hsame _ (.inl ⟨type, rfl⟩)
  have hconflict {state} (heq : update = loadGenesis state) :
      keeper.conflict? after state = keeper.conflict? store state := by
    subst heq
    exact Keeper.conflict?_congr fun type hsome => hsame _ (.inl ⟨type, hsome, rfl⟩)
  cases h with
  | keyLocked locked => exact .keyLocked ((hlocked rfl).trans locked)
  | keySet unlocked => exact .keySet ((hlocked rfl).trans unlocked)
  | recordRefused refused => exact .recordRefused refused
  | recordSet accepted => exact .recordSet accepted
  | registrationRefused refused => exact .registrationRefused refused
  | registrationUnreadable accepted unreadable =>
    exact .registrationUnreadable accepted ((hseed rfl accepted).trans unreadable)
  | registrationKnown accepted known =>
    exact .registrationKnown accepted ((hseed rfl accepted).trans known)
  | registrationFailed accepted fresh failed =>
    exact .registrationFailed accepted ((hseed rfl accepted).trans fresh) failed
  | registered accepted fresh granted =>
    exact .registered accepted ((hseed rfl accepted).trans fresh) granted
  | networkDefined defined => exact .networkDefined ((hdefined rfl).trans defined)
  | networkRefused undefined refused =>
    exact .networkRefused ((hdefined rfl).trans undefined) refused
  | networkFailed undefined accepted failed =>
    exact .networkFailed ((hdefined rfl).trans undefined) accepted failed
  | networkSet undefined accepted granted =>
    exact .networkSet ((hdefined rfl).trans undefined) accepted granted
  | genesisInvalid invalid => exact .genesisInvalid invalid
  | genesisConflict valid conflict =>
    exact .genesisConflict valid ((hconflict rfl).trans conflict)
  | genesisRefused valid unlocked records accepted refused =>
    exact .genesisRefused valid ((hconflict rfl).trans unlocked) records accepted refused
  | genesisLoaded valid unlocked records accepted =>
    exact .genesisLoaded valid ((hconflict rfl).trans unlocked) records accepted

/-! ## Footprints that are apart -/

/-- Whether two updates have no key in common that they may write under. -/
def Apart (keeper : Keeper) (first second : Update) : Prop :=
  ∀ key, first.Footprint keeper key → ¬ second.Footprint keeper key

theorem Apart.symm (h : Apart keeper first second) : Apart keeper second first :=
  fun key hsecond hfirst => h key hfirst hsecond

instance : Std.Symm (Apart keeper) := ⟨fun _ _ => Apart.symm⟩

theorem Ends.after (h : Ends keeper store second result events) (hapart : Apart keeper first second)
    (hfirst : Ends keeper store first other others) :
    Ends keeper (writeAll store (Event.entries others)) second result events :=
  h.congr fun key hkey => hfirst.get?_eq_of_not_footprint fun hother => hapart key hother hkey

theorem Ends.writeAll_comm (h : Ends keeper store first result events)
    (hother : Ends keeper store second other others) (hapart : Apart keeper first second) :
    writeAll (writeAll store (Event.entries events)) (Event.entries others) =
      writeAll (writeAll store (Event.entries others)) (Event.entries events) := by
  refine MemoryStore.ext_get? fun key => ?_
  by_cases hkey : first.Footprint keeper key
  · have hsecond : ¬ second.Footprint keeper key := hapart key hkey
    have hmid := hother.get?_eq_of_not_footprint hsecond
    rw [(hother.after hapart h).get?_eq_of_not_footprint hsecond]
    exact MemoryStore.get?_writeAll_congr hmid.symm _
  · have hmid := h.get?_eq_of_not_footprint hkey
    rw [(h.after hapart.symm hother).get?_eq_of_not_footprint hkey]
    exact MemoryStore.get?_writeAll_congr hmid _

/-! ## Runs -/

def alone (keeper : Keeper) (store : MemoryStore) (update : Update) : KeeperReply :=
  ((Operation.update update).perform keeper ⟨store, []⟩).1

def storeAfter (keeper : Keeper) (store : MemoryStore) (update : Update) : MemoryStore :=
  ((Operation.update update).perform keeper ⟨store, []⟩).2.store

theorem Ends.alone_eq (h : Ends keeper store update result events) :
    alone keeper store update = ⟨[], result⟩ := by
  have hends : Ends keeper (Session.mk store []).store update result events := h
  exact congrArg Prod.fst hends.perform

theorem Ends.storeAfter_eq (h : Ends keeper store update result events) :
    storeAfter keeper store update = writeAll store (Event.entries events) := by
  have hends : Ends keeper (Session.mk store []).store update result events := h
  exact congrArg (fun ended => ended.2.store) hends.perform

theorem alone_storeAfter (hapart : Apart keeper first second) (store : MemoryStore) :
    alone keeper (storeAfter keeper store first) second = alone keeper store second := by
  obtain ⟨result, events, hfirst⟩ := exists_ends keeper store first
  obtain ⟨other, others, hsecond⟩ := exists_ends keeper store second
  rw [hfirst.storeAfter_eq, (hsecond.after hapart hfirst).alone_eq, hsecond.alone_eq]

theorem storeAfter_comm (hapart : Apart keeper first second) (store : MemoryStore) :
    storeAfter keeper (storeAfter keeper store first) second =
      storeAfter keeper (storeAfter keeper store second) first := by
  obtain ⟨result, events, hfirst⟩ := exists_ends keeper store first
  obtain ⟨other, others, hsecond⟩ := exists_ends keeper store second
  rw [hfirst.storeAfter_eq, hsecond.storeAfter_eq, (hsecond.after hapart hfirst).storeAfter_eq,
    (hfirst.after hapart.symm hsecond).storeAfter_eq]
  exact hfirst.writeAll_comm hsecond hapart

end Update

namespace Keeper

variable {keeper : Keeper} {updates : List Update}

theorem run_updates_cons (keeper : Keeper) (update : Update) (rest : List Update)
    (session : Session MemoryStore) :
    ∃ mid : Session MemoryStore, mid.store = update.storeAfter keeper session.store ∧
      keeper.run ((update :: rest).map .update) session =
        (update.alone keeper session.store :: (keeper.run (rest.map .update) mid).1,
          (keeper.run (rest.map .update) mid).2) := by
  obtain ⟨result, events, h⟩ := update.exists_ends keeper session.store
  refine ⟨session.after events, h.storeAfter_eq.symm, ?_⟩
  rw [List.map_cons, run, h.perform, h.alone_eq]

theorem store_run_updates (updates : List Update) (session : Session MemoryStore) :
    (keeper.run (updates.map .update) session).2.store =
      updates.foldl (Update.storeAfter keeper) session.store := by
  induction updates generalizing session with
  | nil => rfl
  | cons update rest ih =>
    obtain ⟨mid, hmid, hrun⟩ := run_updates_cons keeper update rest session
    rw [hrun, List.foldl_cons, ← hmid]
    exact ih mid

/-- Updates that are apart are answered as if each were alone. -/
theorem replies_run_updates (h : updates.Pairwise (Update.Apart keeper))
    (session : Session MemoryStore) :
    (keeper.run (updates.map .update) session).1 =
      updates.map (Update.alone keeper session.store) := by
  induction updates generalizing session with
  | nil => rfl
  | cons update rest ih =>
    obtain ⟨hupdate, hrest⟩ := List.pairwise_cons.1 h
    obtain ⟨mid, hmid, hrun⟩ := run_updates_cons keeper update rest session
    have halone : ∀ later ∈ rest,
        later.alone keeper mid.store = later.alone keeper session.store := by
      intro later hlater
      rw [hmid, Update.alone_storeAfter (hupdate later hlater)]
    rw [hrun, List.map_cons, ih hrest mid, List.map_congr_left halone]

theorem store_run_updates_perm {first second : List Update} (hperm : first.Perm second)
    (h : first.Pairwise (Update.Apart keeper)) (session : Session MemoryStore) :
    (keeper.run (second.map .update) session).2.store =
      (keeper.run (first.map .update) session).2.store := by
  rw [store_run_updates, store_run_updates]
  refine (hperm.foldl_eq' (fun a ha b hb store => ?_) session.store).symm
  by_cases heq : a = b
  · rw [heq]
  · exact Update.storeAfter_comm (h.forall ha hb heq) store

end Keeper

/-! ## Updates of one entry -/

namespace Update

/-- Whether an update is about one entry: a master key or the record of a node. -/
def IsSingle : Update → Prop
  | setMasterKey _ _ => True
  | setRecord _ => True
  | register _ _ => True
  | bootstrapNetwork _ _ _ _ => False
  | loadGenesis _ => False

/-- Whether two updates of one entry are neither registrations of one node nor about one type of
master key. -/
structure Independent (keeper : Keeper) (first second : Update) : Prop where
  single : first.IsSingle ∧ second.IsSingle
  nodes : ∀ certificate other id, first.Presents certificate → second.Presents other →
    keeper.Identifies certificate id → ¬ keeper.Identifies other id
  types : ∀ type key other, first = setMasterKey type key → second ≠ setMasterKey type other

variable {keeper : Keeper} {update first second : Update} {key : Bytes}

theorem footprint_of_isSingle (hsingle : update.IsSingle) (h : update.Footprint keeper key) :
    (∃ type value, update = setMasterKey type value ∧ key = type.storeKey) ∨
      ∃ certificate id, update.Presents certificate ∧ keeper.Identifies certificate id ∧
        key = id.storeKey := by
  cases update with
  | setMasterKey type value => exact .inl ⟨type, value, rfl, h⟩
  | setRecord record =>
    obtain ⟨id, hid, hkey⟩ := h
    exact .inr ⟨record.certificate, id, rfl, hid, hkey⟩
  | register certificate enclave =>
    obtain ⟨id, hid, hkey⟩ := h
    exact .inr ⟨certificate, id, rfl, hid, hkey⟩
  | bootstrapNetwork => exact hsingle.elim
  | loadGenesis => exact hsingle.elim

theorem Independent.apart (h : Independent keeper first second) : Apart keeper first second := by
  intro key hfirst hsecond
  rcases footprint_of_isSingle h.single.1 hfirst with
    ⟨type, value, htype, rfl⟩ | ⟨certificate, id, hpresents, hid, rfl⟩ <;>
  rcases footprint_of_isSingle h.single.2 hsecond with
    ⟨other, value', htype', hkey⟩ | ⟨certificate', id', hpresents', hid', hkey⟩
  · obtain rfl := MasterKeyType.storeKey_inj.1 hkey
    exact h.types _ _ _ htype htype'
  · exact type.storeKey_ne id' hkey
  · exact id.storeKey_ne other hkey
  · obtain rfl := NodeId.storeKey_inj.1 hkey
    exact h.nodes _ _ _ hpresents hpresents' hid hid'

end Update

/-- Whatever a store holds, two independent updates lead to the same store in both orders, and each
is answered alike in both. So all orders of updates that are independent of each other lead to the
same store, and each of them is answered as if it were alone. -/
theorem Keeper.independent_updates_commute (keeper : Keeper) (session : Session MemoryStore) :
    (∀ a b : Update, Update.Independent keeper a b →
      (keeper.run [.update a, .update b] session).2.store =
          (keeper.run [.update b, .update a] session).2.store ∧
        ∃ first second, (keeper.run [.update a, .update b] session).1 = [first, second] ∧
          (keeper.run [.update b, .update a] session).1 = [second, first]) ∧
    ∀ first second : List Update, first.Perm second →
      first.Pairwise (Update.Independent keeper) →
        (keeper.run (second.map .update) session).2.store =
            (keeper.run (first.map .update) session).2.store ∧
          (keeper.run (first.map .update) session).1 =
            first.map (Update.alone keeper session.store) ∧
          (keeper.run (second.map .update) session).1 =
            second.map (Update.alone keeper session.store) := by
  have hsequence (first second : List Update) (hperm : first.Perm second)
      (hindependent : first.Pairwise (Update.Independent keeper)) :
      (keeper.run (second.map .update) session).2.store =
          (keeper.run (first.map .update) session).2.store ∧
        (keeper.run (first.map .update) session).1 =
          first.map (Update.alone keeper session.store) ∧
        (keeper.run (second.map .update) session).1 =
          second.map (Update.alone keeper session.store) := by
    have hapart : first.Pairwise (Update.Apart keeper) :=
      hindependent.imp fun h => h.apart
    exact ⟨store_run_updates_perm hperm hapart session, replies_run_updates hapart session,
      replies_run_updates (hperm.pairwise hapart Update.Apart.symm) session⟩
  refine ⟨fun a b hindependent => ?_, hsequence⟩
  obtain ⟨hstore, hfirst, hsecond⟩ := hsequence [a, b] [b, a] (.swap b a [])
    (List.pairwise_pair.2 hindependent)
  exact ⟨hstore.symm, _, _, hfirst, hsecond⟩

/-- Updates that are independent of each other: one that comes too late, one for a record that
cannot be read, and one that takes the seed out of a record. -/
def Update.independentSample : List Update :=
  [.setMasterKey .nodeExchange ⟨[1]⟩, .register ⟨[8]⟩ .mock, .setRecord ⟨⟨[7]⟩, none⟩]

theorem Keeper.independent_updates_commute_damaged :
    (Update.Independent (.plain .setOnce) (.register ⟨[8]⟩ .mock) (.setRecord ⟨⟨[7]⟩, none⟩) ∧
      ((Keeper.plain .setOnce).run [.update (.register ⟨[8]⟩ .mock),
          .update (.setRecord ⟨⟨[7]⟩, none⟩)] damagedSession).2.store =
        ((Keeper.plain .setOnce).run [.update (.setRecord ⟨⟨[7]⟩, none⟩),
          .update (.register ⟨[8]⟩ .mock)] damagedSession).2.store) ∧
    Update.independentSample.Pairwise (Update.Independent (.plain .setOnce)) ∧
    ((Keeper.plain .setOnce).run (Update.independentSample.reverse.map .update)
        damagedSession).2.store =
      ((Keeper.plain .setOnce).run (Update.independentSample.map .update) damagedSession).2.store ∧
    ((Keeper.plain .setOnce).run (Update.independentSample.reverse.map .update)
        damagedSession).1 = [⟨[], .ok (.node ⟨[7]⟩)⟩, ⟨[], .error (.badEntry (.value .numberCut))⟩,
      ⟨[], .error (.alreadyDefined .nodeExchange)⟩] := by
  have hidentifies {octets : Bytes} {id : NodeId}
      (h : (Keeper.plain .setOnce).Identifies ⟨octets⟩ id) (hne : octets ≠ []) : id = ⟨octets⟩ := by
    obtain ⟨identity, haccepts, rfl⟩ := h
    have hplain : (Keeper.plain .setOnce).Accepts ⟨octets⟩ ⟨.mock, octets⟩ := if_neg hne
    rw [haccepts.unique hplain]
    rfl
  have hnodes : Update.Independent (.plain .setOnce) (.register ⟨[8]⟩ .mock)
      (.setRecord ⟨⟨[7]⟩, none⟩) := by
    refine ⟨⟨trivial, trivial⟩, ?_, nofun⟩
    rintro certificate other id rfl rfl hfirst hsecond
    have hsame := (hidentifies hfirst (by simp)).symm.trans (hidentifies hsecond (by simp))
    exact absurd hsame (by decide)
  have hindependent :
      Update.independentSample.Pairwise (Update.Independent (.plain .setOnce)) := by
    refine List.pairwise_cons.2 ⟨fun other hother => ?_, List.pairwise_pair.2 hnodes⟩
    have hsingle : other.IsSingle ∧ ∀ type key, other ≠ .setMasterKey type key := by
      rcases List.mem_pair.1 hother with rfl | rfl <;> exact ⟨trivial, nofun⟩
    exact ⟨⟨trivial, hsingle.1⟩, nofun, fun type key other' _ => hsingle.2 type other'⟩
  obtain ⟨hpair, hsequence⟩ := Keeper.independent_updates_commute (.plain .setOnce) damagedSession
  obtain ⟨hstore, -, hreplies⟩ := hsequence _ _ (List.reverse_perm _).symm hindependent
  exact ⟨⟨hnodes, (hpair _ _ hnodes).1⟩, hindependent, hstore, hreplies⟩

end EnclaveRegistry
