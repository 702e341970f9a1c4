import EnclaveRegistry.Proofs.Keeper.Refinement

/-! # Where a visit ends

A visitor is shown the entries that a store lists one after the other. That ends where it has
enough, where an entry is no record, or with the last entry, whichever comes first. What a store
lists behind that does not matter, nor what a store is.
-/
namespace EnclaveRegistry

namespace Query

open KeyValueStore (scan)

/-- Whether an entry shows a record: its key is the octet 1 and the octets of a node, and its value
reads as a record. -/
structure Shows (entry : Entry) (shown : RegistrationEntry) : Prop where
  key : entry.1 = 1 :: shown.nodeId.octets
  value : Schema.ofRecord NodeRecord entry.2 = .ok shown.record

/-- What is wrong with an entry that shows no record. The key is looked at first. -/
inductive IllFormed (entry : Entry) : EntryFault → Prop
  | foreign (foreign : ∀ octets, entry.1 ≠ 1 :: octets) : IllFormed entry .foreignKey
  | unreadable {octets fault} (key : entry.1 = 1 :: octets)
      (fails : Schema.ofRecord NodeRecord entry.2 = .error fault) : IllFormed entry (.value fault)

def WantsMore (enough : List RegistrationEntry → Bool) (calls : List RegistrationEntry) : Prop :=
  ∀ seen, seen <+: calls → seen ≠ [] → enough seen = false

/-- What a visitor is shown of a listing, and what that ends with. -/
inductive Enumerates (enough : List RegistrationEntry → Bool) :
    List Entry → List RegistrationEntry → Except KeeperError Unit → Prop
  | exhausted {listing calls} (shows : List.Forall₂ Shows listing calls)
      (wantsMore : WantsMore enough calls) : Enumerates enough listing calls (.ok ())
  | stopped {front calls entry last} (rest : List Entry) (shows : List.Forall₂ Shows front calls)
      (wantsMore : WantsMore enough calls) (showsLast : Shows entry last)
      (stops : enough (calls ++ [last]) = true) :
    Enumerates enough (front ++ entry :: rest) (calls ++ [last]) (.ok ())
  | broken {front calls bad fault} (rest : List Entry) (shows : List.Forall₂ Shows front calls)
      (wantsMore : WantsMore enough calls) (illFormed : IllFormed bad fault) :
    Enumerates enough (front ++ bad :: rest) calls (.error (.badEntry fault))

variable {enough : List RegistrationEntry → Bool} {entry : Entry} {listing : List Entry}
  {calls : List RegistrationEntry} {result : Except KeeperError Unit}

/-! ## One entry -/

theorem entryOf_eq_ok_iff_shows {shown : RegistrationEntry} :
    entryOf entry = .ok shown ↔ Shows entry shown := by
  obtain ⟨key, value⟩ := entry
  have hdecode : decode NodeRecord value = .ok shown.record ↔
      Schema.ofRecord NodeRecord value = .ok shown.record := by
    rw [decode]
    cases Schema.ofRecord NodeRecord value <;> simp
  rw [entryOf_eq_ok_iff, hdecode]
  exact ⟨fun h => ⟨h.1, h.2⟩, fun h => ⟨h.key, h.value⟩⟩

theorem entryOf_of_illFormed {fault : EntryFault} (h : IllFormed entry fault) :
    entryOf entry = .error (.badEntry fault) := by
  cases h with
  | foreign foreign =>
    have hkey : NodeId.ofStoreKey? entry.1 = none := by
      refine Option.eq_none_iff_forall_ne_some.2 fun id hid => ?_
      exact foreign id.octets (NodeId.ofStoreKey?_eq_some_iff.1 hid)
    rw [entryOf, hkey]
  | @unreadable octets fault key fails =>
    rw [entryOf, key]
    simp only [NodeId.ofStoreKey?, decode, fails]
    rfl

theorem shows_or_illFormed (entry : Entry) :
    (∃ shown, Shows entry shown) ∨ ∃ fault, IllFormed entry fault := by
  by_cases hkey : ∃ octets, entry.1 = 1 :: octets
  · obtain ⟨octets, hkey⟩ := hkey
    cases hread : Schema.ofRecord NodeRecord entry.2 with
    | ok record => exact .inl ⟨⟨⟨octets⟩, record⟩, hkey, hread⟩
    | error fault => exact .inr ⟨.value fault, .unreadable hkey hread⟩
  · exact .inr ⟨.foreignKey, .foreign fun octets h => hkey ⟨octets, h⟩⟩

/-! ## Entries one after the other -/

theorem WantsMore.append {last : RegistrationEntry} (h : WantsMore enough calls)
    (hlast : enough (calls ++ [last]) = false) : WantsMore enough (calls ++ [last]) := by
  intro seen hseen hne
  rcases List.prefix_concat_iff.1 hseen with rfl | hseen
  · exact hlast
  · exact h seen hseen hne

theorem visitEntries_append {front : List Entry} (hshows : List.Forall₂ Shows front calls)
    (before : List RegistrationEntry) (rest : List Entry)
    (hwants : ∀ seen, seen <+: calls → seen ≠ [] → enough (before ++ seen) = false) :
    visitEntries (keeping enough) before (front ++ rest) =
      visitEntries (keeping enough) (before ++ calls) rest := by
  induction hshows generalizing before with
  | nil => simp
  | @cons entry shown front calls hentry _ ih =>
    have hfirst := hwants [shown] (List.prefix_append [shown] calls) (by simp)
    have hrest := ih (before ++ [shown]) fun seen hseen _ => by
      rw [List.append_assoc, List.singleton_append]
      exact hwants (shown :: seen) ((List.prefix_cons_inj shown).2 hseen) (by simp)
    rw [List.append_assoc, List.singleton_append] at hrest
    rw [List.cons_append, visitEntries, entryOf_eq_ok_iff_shows.2 hentry]
    simp only [keeping, hfirst]
    exact hrest

theorem exists_enumerates (enough : List RegistrationEntry → Bool) (listing : List Entry) :
    ∃ calls result, Enumerates enough listing calls result := by
  induction listing using List.reverseRecOn with
  | nil =>
    refine ⟨[], .ok (), .exhausted .nil fun seen hseen hne => ?_⟩
    exact absurd (List.prefix_nil.1 hseen) hne
  | append_singleton listing entry ih =>
    obtain ⟨calls, result, h⟩ := ih
    cases h with
    | exhausted shows wantsMore =>
      rcases shows_or_illFormed entry with ⟨shown, hshown⟩ | ⟨fault, hfault⟩
      · cases henough : enough (calls ++ [shown]) with
        | true => exact ⟨_, _, .stopped [] shows wantsMore hshown henough⟩
        | false =>
          have hshows : List.Forall₂ Shows (listing ++ [entry]) (calls ++ [shown]) :=
            List.rel_append shows (.cons hshown .nil)
          exact ⟨_, _, .exhausted hshows (wantsMore.append henough)⟩
      · exact ⟨_, _, .broken [] shows wantsMore hfault⟩
    | stopped rest shows wantsMore showsLast stops =>
      rw [List.append_assoc, List.cons_append]
      exact ⟨_, _, .stopped (rest ++ [entry]) shows wantsMore showsLast stops⟩
    | broken rest shows wantsMore illFormed =>
      rw [List.append_assoc, List.cons_append]
      exact ⟨_, _, .broken (rest ++ [entry]) shows wantsMore illFormed⟩

theorem visitEntries_of_enumerates (h : Enumerates enough listing calls result) :
    visitEntries (keeping enough) [] listing = (calls, result) := by
  cases h with
  | exhausted shows wantsMore =>
    have hvisit := visitEntries_append shows [] [] wantsMore
    rwa [List.append_nil] at hvisit
  | stopped rest shows wantsMore showsLast stops =>
    rw [visitEntries_append shows [] _ wantsMore, visitEntries, entryOf_eq_ok_iff_shows.2 showsLast,
      List.nil_append]
    simp only [keeping, stops]
  | broken rest shows wantsMore illFormed =>
    rw [visitEntries_append shows [] _ wantsMore, visitEntries, entryOf_of_illFormed illFormed]
    rfl

theorem visitEntries_eq_iff :
    visitEntries (keeping enough) [] listing = (calls, result) ↔
      Enumerates enough listing calls result := by
  constructor
  · intro h
    obtain ⟨others, outcome, hother⟩ := exists_enumerates enough listing
    cases h.symm.trans (visitEntries_of_enumerates hother)
    exact hother
  · exact visitEntries_of_enumerates

/-! ## Visits of a store -/

variable {σ : Type} [KeyValueStore σ] {store : σ}

theorem visited_eq_iff : visited store enough = (calls, result) ↔
    Enumerates enough (scan store registrationPrefix) calls result :=
  visitEntries_eq_iff

end Query

/-! ## Visits of a registry -/

namespace Registry.StoredIn

variable {registry : Registry} {store : MemoryStore}

end Registry.StoredIn
end EnclaveRegistry
