import EnclaveRegistry.Proofs.Gateway.Reading
import EnclaveRegistry.Proofs.Keeper.Enumeration
import EnclaveRegistry.Proofs.Text.HexDigit

/-! # Identifiers, their texts and their keys

An identifier is read from an even number of digits behind at most one marker and written with the
same digits in lowercase. Identifiers, their texts and the keys of their records are in one order,
so it does not matter which of them are sorted, and a store lists records in that order.
-/
namespace EnclaveRegistry

open KeyValueStore (scan)

namespace NodeId

/-! ## Texts -/

theorem parse_eq_ok_iff {text : String} {id : NodeId} :
    parse text = .ok id ↔ Hex.parse (Utf8.encode text) = .ok id.octets := by
  rw [parse]
  cases id
  cases Hex.parse (Utf8.encode text) <;> simp

theorem parse_toHex (id : NodeId) : parse id.toHex = .ok id := by
  rw [parse_eq_ok_iff, toHex, Hex.utf8_encode, Hex.parse_digits]

theorem parse_marked_toHex (id : NodeId) : parse ("0x" ++ id.toHex) = .ok id := by
  have hmarker : Utf8.encode "0x" = [48, 120] := by decide +kernel
  rw [parse_eq_ok_iff, Utf8.encode_append, hmarker, toHex, Hex.utf8_encode]
  exact Hex.decode_digits id.octets

theorem exists_parse_iff {text : String} : (∃ id, parse text = .ok id) ↔
    (Utf8.encode (Hex.withoutMarker text)).length % 2 = 0 ∧
      ∀ c ∈ (Hex.withoutMarker text).toList, c ∈ Hex.readable := by
  rw [← Hex.exists_parse_iff]
  constructor
  · rintro ⟨id, h⟩
    exact ⟨id.octets, parse_eq_ok_iff.1 h⟩
  · rintro ⟨octets, h⟩
    exact ⟨⟨octets⟩, parse_eq_ok_iff.2 h⟩

theorem toHex_of_parse {text : String} {id : NodeId} (h : parse text = .ok id) :
    id.toHex = (Hex.withoutMarker text).toLower :=
  Hex.encode_of_parse (parse_eq_ok_iff.1 h)

/-! ## Order -/

theorem toHex_lt_iff {a b : NodeId} : a.toHex < b.toHex ↔ a < b := Hex.encode_lt_iff

theorem utf8_toHex_lt_iff {a b : NodeId} :
    Utf8.encode a.toHex < Utf8.encode b.toHex ↔ a < b := by
  rw [toHex, toHex, Hex.utf8_encode, Hex.utf8_encode]
  exact Hex.digits_lt_iff

theorem map_sorted {α : Type} [LT α] [DecidableLT α] {f : NodeId → α}
    (hf : ∀ {a b}, f a < f b ↔ a < b) (ids : List NodeId) :
    (sorted ids).map f = (ids.map f).mergeSort fun a b => !decide (b < a) := by
  refine List.map_mergeSort fun a _ b _ => ?_
  simp [hf]

theorem not_lt_trans {a b c : NodeId} (hab : ¬ b < a) (hbc : ¬ c < b) : ¬ c < a := by
  have hleft : a.octets ≤ b.octets := hab
  have hright : b.octets ≤ c.octets := hbc
  exact Std.le_trans hleft hright

theorem sorted_eq_of_perm {ids listed : List NodeId} (hperm : ids.Perm listed)
    (hlisted : listed.Pairwise (· < ·)) : sorted ids = listed := by
  have hle : listed.Pairwise fun a b => (!decide (b < a)) = true := by
    refine hlisted.imp fun {a b} hlt => ?_
    have hnot := ((lt_iff_not_lt_and_ne a b).1 hlt).1
    simpa using hnot
  have htrans : ∀ a b c : NodeId, (!decide (b < a)) = true → (!decide (c < b)) = true →
      (!decide (c < a)) = true := by
    intro a b c hab hbc
    simp only [Bool.not_eq_true', decide_eq_false_iff_not] at hab hbc ⊢
    exact not_lt_trans hab hbc
  have htotal : ∀ a b : NodeId, (!decide (b < a) || !decide (a < b)) = true := by
    intro a b
    by_cases hlt : a < b
    · simp [((lt_iff_not_lt_and_ne a b).1 hlt).1]
    · simp [hlt]
  refine List.Perm.eq_of_pairwise (fun a b _ _ hab hba => ?_)
    (List.pairwise_mergeSort htrans htotal ids) hle ((List.mergeSort_perm ids _).trans hperm)
  by_contra hne
  simp only [Bool.not_eq_true', decide_eq_false_iff_not] at hab hba
  exact hba ((lt_iff_not_lt_and_ne a b).2 ⟨hab, hne⟩)

/-! ## Keys -/

theorem isSome_ofStoreKey?_iff {key : Bytes} :
    (ofStoreKey? key).isSome ↔ key.head? = some 1 := by
  rw [Option.isSome_iff_exists]
  constructor
  · rintro ⟨id, h⟩
    rw [ofStoreKey?_eq_some_iff.1 h]
    rfl
  · intro h
    obtain ⟨octets, rfl⟩ := List.head?_eq_some_iff.1 h
    exact ⟨⟨octets⟩, rfl⟩

theorem exists_listed (store : MemoryStore) : ∃ listed : List NodeId,
    (scan store registrationPrefix).map Prod.fst = listed.map storeKey ∧
      listed.Pairwise (· < ·) := by
  let keys := (scan store registrationPrefix).map Prod.fst
  have hkeys : (keys.map fun key => (⟨key.tail⟩ : NodeId)).map storeKey = keys := by
    rw [List.map_map]
    conv_rhs => rw [← List.map_id keys]
    refine List.map_congr_left fun key hkey => ?_
    obtain ⟨⟨found, value⟩, hentry, rfl⟩ := List.mem_map.1 hkey
    obtain ⟨id, rfl⟩ := prefix_iff_exists_storeKey.1 (MemoryStore.mem_scan.1 hentry).1
    rfl
  have hascending : keys.Pairwise (· < ·) :=
    List.pairwise_map.2 (MemoryStore.ascending_scan store registrationPrefix)
  refine ⟨_, hkeys.symm, ?_⟩
  rw [← hkeys, List.pairwise_map] at hascending
  exact hascending.imp storeKey_lt_iff.1

theorem map_storeKey_of_shows {listing : List Entry} {calls : List RegistrationEntry}
    (h : List.Forall₂ Query.Shows listing calls) :
    (calls.map RegistrationEntry.nodeId).map storeKey = listing.map Prod.fst := by
  induction h with
  | nil => rfl
  | @cons entry shown _ _ hshows _ ih =>
    have hkey : shown.nodeId.storeKey = entry.1 := hshows.key.symm
    simp only [List.map_cons, hkey, ih]

/-- Records are shown in the order of the keys under which they stand. -/
theorem map_storeKey_entries {store : MemoryStore} {entries : List RegistrationEntry}
    (h : Query.entries store = .ok entries) :
    (entries.map RegistrationEntry.nodeId).map storeKey =
      (scan store registrationPrefix).map Prod.fst := by
  obtain ⟨hcalls, hresult⟩ := Query.entries_eq_ok_iff.1 h
  have hvisited := Query.visited_eq_iff.1 (Prod.ext hcalls hresult)
  generalize scan store registrationPrefix = listing at hvisited ⊢
  cases hvisited with
  | exhausted shows wantsMore => exact map_storeKey_of_shows shows
  | stopped rest shows wantsMore showsLast stops => cases stops

/-! ## Requests -/

theorem nodeIdOf_eq_ok_iff {raw : Bytes} {text : String} {id : NodeId}
    (h : Gateway.parameterText "node_id" raw = .ok text) :
    Gateway.nodeIdOf raw = .ok id ↔ parse text = .ok id := by
  rw [Gateway.nodeIdOf_eq h]
  cases parse text <;> simp [Except.mapError]

/-- A text is an identifier exactly if it is an even number of octets behind at most one marker and
all of them are digits, and the identifier is written with these digits in lowercase; an identifier
is read from what it is written as, with a marker or without. Identifiers, their texts, the octets
of these and the keys of records are in one order. A key tells its identifier, exactly those that
start with the octet 1 do, and none of them is that of a master key. So sorted identifiers are
sorted texts and sorted keys, and a store lists records in that order. -/
theorem texts_and_keys_agree :
    (∀ text : String,
      ((∃ id, parse text = .ok id) ↔
        (Utf8.encode (Hex.withoutMarker text)).length % 2 = 0 ∧
          ∀ c ∈ (Hex.withoutMarker text).toList, c ∈ Hex.readable) ∧
      ∀ id, parse text = .ok id → id.toHex = (Hex.withoutMarker text).toLower) ∧
    (∀ (raw : Bytes) (text : String), Gateway.parameterText "node_id" raw = .ok text →
      ∀ id, Gateway.nodeIdOf raw = .ok id ↔ parse text = .ok id) ∧
    (∀ id : NodeId, parse id.toHex = .ok id ∧ parse ("0x" ++ id.toHex) = .ok id) ∧
    (∀ a b : NodeId,
      (a.toHex < b.toHex ↔ a < b) ∧ (Utf8.encode a.toHex < Utf8.encode b.toHex ↔ a < b) ∧
        (a.storeKey < b.storeKey ↔ a < b)) ∧
    (∀ a b : NodeId, a.storeKey = b.storeKey ↔ a = b) ∧
    (∀ (key : Bytes) (id : NodeId), ofStoreKey? key = some id ↔ key = id.storeKey) ∧
    (∀ key : Bytes, (ofStoreKey? key).isSome ↔ key.head? = some 1) ∧
    (∀ (id : NodeId) (type : MasterKeyType), id.storeKey ≠ type.storeKey) ∧
    (∀ ids : List NodeId,
      (sorted ids).map toHex = (ids.map toHex).mergeSort (fun a b => !decide (b < a)) ∧
        (sorted ids).map storeKey =
          (ids.map storeKey).mergeSort fun a b => !decide (b < a)) ∧
    ∀ store : MemoryStore, ∃ listed : List NodeId,
      (scan store registrationPrefix).map Prod.fst = listed.map storeKey ∧
        (∀ entries, Query.entries store = .ok entries →
          entries.map RegistrationEntry.nodeId = listed) ∧
        ∀ ids : List NodeId, ids.Perm listed → sorted ids = listed ∧
          (ids.map toHex).mergeSort (fun a b => !decide (b < a)) = listed.map toHex := by
  refine ⟨fun text => ⟨exists_parse_iff, fun id => toHex_of_parse⟩,
    fun raw text h id => nodeIdOf_eq_ok_iff h, fun id => ⟨parse_toHex id, parse_marked_toHex id⟩,
    fun a b => ⟨toHex_lt_iff, utf8_toHex_lt_iff, storeKey_lt_iff⟩, fun a b => storeKey_inj,
    fun key id => ofStoreKey?_eq_some_iff, fun key => isSome_ofStoreKey?_iff, storeKey_ne,
    fun ids => ⟨map_sorted toHex_lt_iff ids, map_sorted storeKey_lt_iff ids⟩, fun store => ?_⟩
  obtain ⟨listed, hkeys, hlisted⟩ := exists_listed store
  refine ⟨listed, hkeys, fun entries h => ?_, fun ids hperm => ?_⟩
  · have hentries := map_storeKey_entries h
    rw [hkeys] at hentries
    exact List.map_injective_iff.2 (fun a b => storeKey_inj.1) hentries
  · have hsorted := sorted_eq_of_perm hperm hlisted
    exact ⟨hsorted, by rw [← map_sorted toHex_lt_iff ids, hsorted]⟩

/-- The shorter identifier is the beginning of the longer one and was written after it. -/
def sampleListing : MemoryStore :=
  let record : Bytes := Schema.toRecord (NodeRecord.mk ⟨[7]⟩ none)
  (MemoryStore.empty.set (storeKey ⟨[171, 12]⟩) record).set (storeKey ⟨[171]⟩) record

theorem texts_and_keys_agree_sample :
    parse "0xAB0c" = .ok ⟨[171, 12]⟩ ∧
      (⟨[171, 12]⟩ : NodeId).toHex = (Hex.withoutMarker "0xAB0c").toLower ∧
      Gateway.nodeIdOf (Bytes.ascii "0xAB0c") = .ok ⟨[171, 12]⟩ ∧
      (¬ ∃ id, parse "0x0x12" = .ok id) ∧
      (Query.entries sampleListing).map (List.map RegistrationEntry.nodeId) =
        .ok [⟨[171]⟩, ⟨[171, 12]⟩] ∧
      ([⟨[171, 12]⟩, ⟨[171]⟩].map toHex).mergeSort (fun a b => !decide (b < a)) =
        [⟨[171]⟩, ⟨[171, 12]⟩].map toHex := by
  obtain ⟨htexts, hrequests, -, -, -, -, -, -, -, hstores⟩ := texts_and_keys_agree
  have hparse : parse "0xAB0c" = .ok ⟨[171, 12]⟩ := by decide +kernel
  have hparameter : Gateway.parameterText "node_id" (Bytes.ascii "0xAB0c") = .ok "0xAB0c" := by
    have hdecode : Utf8.decode? (Http.unescape (Bytes.ascii "0xAB0c")) = some "0xAB0c" := by
      decide +kernel
    rw [Gateway.parameterText, hdecode]
  obtain ⟨listed, hkeys, hentries, hsorted⟩ := hstores sampleListing
  have hread : Query.entries sampleListing =
      .ok [⟨⟨[171]⟩, ⟨⟨[7]⟩, none⟩⟩, ⟨⟨[171, 12]⟩, ⟨⟨[7]⟩, none⟩⟩] := by rfl
  have hlisted : [⟨[171]⟩, ⟨[171, 12]⟩] = listed := hentries _ hread
  subst hlisted
  refine ⟨hparse, (htexts _).2 _ hparse, (hrequests _ _ hparameter _).2 hparse, ?_, ?_,
    (hsorted _ (List.Perm.swap _ _ _)).2⟩
  · have hmarker : Hex.withoutMarker "0x0x12" = "0x12" := by decide +kernel
    have hx : 'x' ∉ Hex.readable := by decide +kernel
    rw [(htexts "0x0x12").1, hmarker]
    rintro ⟨-, hdigits⟩
    exact hx (hdigits 'x' (by decide +kernel))
  · rw [hread]
    rfl

end NodeId
end EnclaveRegistry
