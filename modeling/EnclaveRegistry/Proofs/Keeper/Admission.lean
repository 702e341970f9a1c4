import EnclaveRegistry.Proofs.Keeper.Outcome

/-! # Which states are admitted

A state is refused for the first of its faults, in the order in which they are checked: an empty
certificate, a master key that may not be replaced, a certificate that is refused. A state without
any fault is loaded.
-/
namespace EnclaveRegistry

open Genesis (State)

/-- Whether a record is the first one with a property, behind `index` others. -/
def NodeRecord.FirstAt (P : NodeRecord → Prop) (records : List NodeRecord) (index : Nat)
    (record : NodeRecord) : Prop :=
  records[index]? = some record ∧ P record ∧ ∀ earlier ∈ records.take index, ¬ P earlier

namespace NodeRecord.FirstAt

variable {P : NodeRecord → Prop} {records : List NodeRecord} {i j : Nat} {a b : NodeRecord}

theorem not_lt (ha : FirstAt P records i a) (hb : FirstAt P records j b) : ¬ i < j := by
  intro hlt
  have hmem : a ∈ records.take j :=
    List.mem_of_getElem? ((List.getElem?_take_of_lt hlt).trans ha.1)
  exact hb.2.2 a hmem ha.2.1

theorem unique (ha : FirstAt P records i a) (hb : FirstAt P records j b) : i = j ∧ a = b := by
  obtain rfl : i = j := Nat.le_antisymm (Nat.le_of_not_lt (hb.not_lt ha))
    (Nat.le_of_not_lt (ha.not_lt hb))
  exact ⟨rfl, Option.some.inj (ha.1.symm.trans hb.1)⟩

theorem of_append {before rest : List NodeRecord} (hP : P a) (h : ∀ earlier ∈ before, ¬ P earlier) :
    FirstAt P (before ++ a :: rest) before.length a := by
  refine ⟨by simp, hP, ?_⟩
  rwa [List.take_left]

theorem mem (h : FirstAt P records i a) : a ∈ records := List.mem_of_getElem? h.1

end NodeRecord.FirstAt

open NodeRecord (FirstAt)

namespace Keeper

variable (keeper : Keeper) (store : MemoryStore) (state : State)

/-- Whether a state has a master key that is defined and may not be replaced. -/
def Conflicts (type : MasterKeyType) : Prop :=
  keeper.policy = .setOnce ∧ (state.masterKey? type).isSome ∧
    (KeyValueStore.get? store type.storeKey).isSome

def Filled (state : State) : Prop := ∀ record ∈ state.records, record.certificate.octets ≠ []

/-- Whether there is nothing that a state could be refused for. -/
structure Admits : Prop where
  filled : Filled state
  unlocked : ∀ type, ¬ keeper.Conflicts store state type
  accepted : ∀ record ∈ state.records, ∃ identity, keeper.Accepts record.certificate identity

/-- The error for the first fault of a state: an empty certificate, then a master key that may not
be replaced, then a certificate that is refused. -/
inductive LoadFault : KeeperError → Prop
  | emptyCertificate {index record}
      (first : FirstAt (fun record => record.certificate.octets = []) state.records index record) :
    LoadFault (.emptyCertificate index)
  | alreadyDefined {type} (filled : Filled state) (conflict : keeper.Conflicts store state type)
      (first : type = .io → ¬ keeper.Conflicts store state .nodeExchange) :
    LoadFault (.alreadyDefined type)
  | invalidCertificate {index record error} (filled : Filled state)
      (unlocked : ∀ type, ¬ keeper.Conflicts store state type)
      (first : FirstAt (fun record => ∃ error, keeper.Refuses record.certificate error)
        state.records index record) (refused : keeper.Refuses record.certificate error) :
    LoadFault (.invalidCertificate error)

variable {keeper store state}

theorem Admits.not_loadFault (h : keeper.Admits store state) {error : KeeperError} :
    ¬ keeper.LoadFault store state error := by
  rintro (first | ⟨-, conflict, -⟩ | ⟨-, -, first, refused⟩)
  · exact h.filled _ first.mem first.2.1
  · exact h.unlocked _ conflict
  · obtain ⟨identity, haccepts⟩ := h.accepted _ first.mem
    exact haccepts.not_refuses refused

theorem LoadFault.unique {a b : KeeperError} (ha : keeper.LoadFault store state a)
    (hb : keeper.LoadFault store state b) : a = b := by
  cases ha with
  | emptyCertificate first =>
    cases hb with
    | emptyCertificate other => rw [(first.unique other).1]
    | alreadyDefined filled => exact absurd first.2.1 (filled _ first.mem)
    | invalidCertificate filled => exact absurd first.2.1 (filled _ first.mem)
  | @alreadyDefined type filled conflict first =>
    cases hb with
    | emptyCertificate other => exact absurd other.2.1 (filled _ other.mem)
    | @alreadyDefined other _ conflict' first' =>
      cases type <;> cases other
      · rfl
      · exact absurd conflict (first' rfl)
      · exact absurd conflict' (first rfl)
      · rfl
    | invalidCertificate _ unlocked => exact absurd conflict (unlocked _)
  | invalidCertificate filled unlocked first refused =>
    cases hb with
    | emptyCertificate other => exact absurd other.2.1 (filled _ other.mem)
    | alreadyDefined _ conflict => exact absurd conflict (unlocked _)
    | invalidCertificate _ _ other refused' =>
      obtain ⟨-, rfl⟩ := first.unique other
      rw [Refuses, refused] at refused'
      cases refused'
      rfl

/-! ## The checks of a load -/

theorem filled_of_validate (h : state.validate = .ok ()) : Filled state := by
  unfold Genesis.State.validate at h
  cases hfind : state.records.findIdx? fun record => record.certificate.octets.isEmpty with
  | none =>
    intro record hrecord hempty
    have hnot := List.findIdx?_eq_none_iff.1 hfind record hrecord
    simp [hempty] at hnot
  | some index =>
    rw [hfind] at h
    cases h

theorem loadFault_of_validate {error : KeeperError} (h : state.validate = .error error) :
    keeper.LoadFault store state error := by
  unfold Genesis.State.validate at h
  cases hfind : state.records.findIdx? fun record => record.certificate.octets.isEmpty with
  | none =>
    rw [hfind] at h
    cases h
  | some index =>
    rw [hfind] at h
    cases h
    obtain ⟨hlt, hempty, hbefore⟩ := List.findIdx?_eq_some_iff_getElem.1 hfind
    refine .emptyCertificate ⟨List.getElem?_eq_getElem hlt, List.isEmpty_iff.1 hempty, ?_⟩
    intro earlier hearlier
    obtain ⟨place, hplace, rfl⟩ := List.mem_take_iff_getElem.1 hearlier
    have hnot := hbefore place (Nat.lt_of_lt_of_le hplace (Nat.min_le_left ..))
    exact fun h => hnot (List.isEmpty_iff.2 h)

theorem conflicts_iff {type : MasterKeyType} : keeper.Conflicts store state type ↔
    ((state.masterKey? type).isSome && keeper.isLocked store type) = true := by
  simp only [Conflicts, isLocked, Query.isMasterKeyDefined, Bool.and_eq_true, beq_iff_eq]
  exact and_left_comm

theorem not_conflicts_of_conflict? (h : keeper.conflict? store state = none)
    (type : MasterKeyType) : ¬ keeper.Conflicts store state type := by
  have hmem : type ∈ MasterKeyType.all := by cases type <;> decide
  have hnot := List.find?_eq_none.1 h type hmem
  rwa [conflicts_iff]

theorem conflicts_of_conflict? {type : MasterKeyType}
    (h : keeper.conflict? store state = some type) : keeper.Conflicts store state type := by
  have hfound := List.find?_some h
  exact conflicts_iff.2 hfound

theorem not_conflicts_nodeExchange (h : keeper.conflict? store state = some .io) :
    ¬ keeper.Conflicts store state .nodeExchange := by
  intro hconflict
  have hfirst : keeper.conflict? store state = some .nodeExchange :=
    List.find?_cons_of_pos (conflicts_iff.1 hconflict)
  rw [hfirst] at h
  cases h

end Keeper

namespace Update

variable {keeper : Keeper} {store : MemoryStore} {state : State} {events : List Event}

theorem Ends.admits {answer : Answer}
    (h : Ends keeper store (.loadGenesis state) (.ok answer) events) :
    keeper.Admits store state := by
  cases h with
  | @genesisLoaded _ proven valid unlocked records accepted =>
    refine ⟨Keeper.filled_of_validate valid, Keeper.not_conflicts_of_conflict? unlocked, ?_⟩
    intro record hrecord
    rw [← records] at hrecord
    obtain ⟨entry, hentry, rfl⟩ := List.mem_map.1 hrecord
    exact ⟨entry.1, accepted entry hentry⟩

theorem Ends.loadFault {error : KeeperError}
    (h : Ends keeper store (.loadGenesis state) (.error error) events) :
    keeper.LoadFault store state error := by
  cases h with
  | genesisInvalid invalid => exact Keeper.loadFault_of_validate invalid
  | @genesisConflict _ type valid conflict =>
    refine .alreadyDefined (Keeper.filled_of_validate valid)
      (Keeper.conflicts_of_conflict? conflict) ?_
    rintro rfl
    exact Keeper.not_conflicts_nodeExchange conflict
  | @genesisRefused _ before record rest error valid unlocked records accepted refused =>
    have hbefore : ∀ earlier ∈ before, ¬ ∃ error, keeper.Refuses earlier.certificate error := by
      rintro earlier hearlier ⟨other, hrefused⟩
      obtain ⟨identity, haccepts⟩ := accepted earlier hearlier
      exact haccepts.not_refuses hrefused
    have hfirst : FirstAt (fun record => ∃ error, keeper.Refuses record.certificate error)
        state.records before.length record := by
      rw [records]
      exact .of_append ⟨error, refused⟩ hbefore
    exact .invalidCertificate (Keeper.filled_of_validate valid)
      (Keeper.not_conflicts_of_conflict? unlocked) hfirst refused

end Update

namespace Keeper

variable {keeper : Keeper}

/-- How a load ends is one of the ways in which the update with its state ends. -/
theorem run_loadGenesis_ends (keeper : Keeper) (session : Session MemoryStore) (state : State) :
    ∃ result events, Update.Ends keeper session.store (.loadGenesis state)
        (Except.map (fun _ => Answer.done) result) events ∧
      (keeper.loadGenesis state).run session = (result, session.after events) := by
  obtain ⟨answer, events, hends, hperform⟩ :=
    Update.run_perform keeper session (.loadGenesis state)
  cases hrun : (keeper.loadGenesis state).run session with
  | mk result final =>
    rw [Update.perform, Transaction.run_map hrun] at hperform
    obtain ⟨rfl, rfl⟩ := Prod.mk.inj hperform
    exact ⟨result, events, hends, rfl⟩

theorem loadGenesis_eq_ok_iff (session : Session MemoryStore) (state : State) :
    ((keeper.loadGenesis state).run session).1 = .ok () ↔ keeper.Admits session.store state := by
  obtain ⟨result, events, hends, hrun⟩ := run_loadGenesis_ends keeper session state
  rw [hrun]
  cases result with
  | ok _ => exact ⟨fun _ => hends.admits, fun _ => rfl⟩
  | error error => exact ⟨nofun, fun h => absurd hends.loadFault h.not_loadFault⟩

theorem loadGenesis_eq_error_iff (session : Session MemoryStore) (state : State)
    (error : KeeperError) : ((keeper.loadGenesis state).run session).1 = .error error ↔
      keeper.LoadFault session.store state error := by
  obtain ⟨result, events, hends, hrun⟩ := run_loadGenesis_ends keeper session state
  rw [hrun]
  cases result with
  | ok _ => exact ⟨nofun, fun h => absurd h hends.admits.not_loadFault⟩
  | error found =>
    constructor
    · intro h
      cases h
      exact hends.loadFault
    · intro h
      exact congrArg Except.error (hends.loadFault.unique h)

end Keeper
end EnclaveRegistry
