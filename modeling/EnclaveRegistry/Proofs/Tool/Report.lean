import EnclaveRegistry.Gateway.Settings
import EnclaveRegistry.Proofs.Keeper.Start
import EnclaveRegistry.Proofs.Tool.Migration
import EnclaveRegistry.Tool.Report
import Mathlib.Data.Set.Card

/-! # Reports agree with the gateway

A report is made from a keeper of its own. It is made exactly if a gateway starts from the same
text, and it tells what that gateway answers to its clients.
-/
namespace EnclaveRegistry

open Genesis (State)
open Program (Surroundings)

theorem Registry.StoredIn.isAuthenticated {registry : Registry} {store : MemoryStore}
    (h : registry.StoredIn store) (id : NodeId) : Query.isAuthenticated store id =
      .ok ((registry.records[id]?).any NodeRecord.isProvisioned) := by
  rw [Query.isAuthenticated, h.nodeRecord]
  rfl

namespace Tool

/-! ## The text of a report -/

def shownKey (key : Option MasterKey) : String := if key.isSome then "defined" else "unset"

/-- The text of a report on a state that lists nodes, each with whether it is authenticated. -/
def reportText (state : State) (nodes : List (NodeId × Bool)) : String :=
  String.join ((["schema_version: 2", "master_key[node_exch]: " ++ shownKey state.nodeExchangeKey,
    "master_key[io]: " ++ shownKey state.ioKey,
    "registrations: " ++ Decimal.text nodes.length] ++
    nodes.map fun node =>
      "  " ++ node.1.toHex ++ " authenticated=" ++ if node.2 then "true" else "false").map
        (· ++ "\n"))

theorem text_eq_reportText (state : State) (nodes : List (NodeId × Bool)) :
    Report.text ⟨2, MasterKeyType.all.map fun type => (type, (state.masterKey? type).isSome),
      nodes⟩ = reportText state nodes := by
  have hversion : s!"schema_version: {Decimal.text (2 : UInt32).toNat}" = "schema_version: 2" := by
    decide +kernel
  have hnode : s!"master_key[{MasterKeyType.nodeExchange.tag}]: " = "master_key[node_exch]: " := by
    decide
  have hio : s!"master_key[{MasterKeyType.io.tag}]: " = "master_key[io]: " := by
    decide
  rw [Report.text, reportText, Report.lines]
  simp only [hversion, MasterKeyType.all, List.map_cons, List.map_nil, hnode, hio]
  rfl

/-! ## What is reported -/

variable {verifier : Verifier} {policy : MasterKeyPolicy} {text : Bytes} {loaded : Loaded}

def shownNodes (registry : Registry) : List (NodeId × Bool) :=
  registry.entries.map fun entry => (entry.nodeId, entry.record.isProvisioned)

theorem mem_shownNodes {registry : Registry} {id : NodeId} {flag : Bool} :
    (id, flag) ∈ shownNodes registry ↔
      ∃ record, registry.records[id]? = some record ∧ record.isProvisioned = flag := by
  rw [shownNodes, List.mem_map]
  constructor
  · rintro ⟨entry, hentry, heq⟩
    cases heq
    exact ⟨entry.record, registry.mem_entries.1 hentry, rfl⟩
  · rintro ⟨record, hrecord, rfl⟩
    exact ⟨⟨id, record⟩, registry.mem_entries.2 hrecord, rfl⟩

theorem pairwise_shownNodes (registry : Registry) :
    ((shownNodes registry).map Prod.fst).Pairwise (· < ·) := by
  rw [shownNodes, List.map_map]
  exact List.pairwise_map.2 registry.pairwise_entries

theorem ofLoaded_eq {registry : Registry} (h : registry.StoredIn loaded.store) :
    Report.ofLoaded loaded = .ok ⟨loaded.document.version,
      MasterKeyType.all.map fun type => (type, (registry.masterKey? type).isSome),
      shownNodes registry⟩ := by
  simp only [Report.ofLoaded, h.readEntries, Result.ok_bind, h.isMasterKeyDefined]
  rfl

theorem inspect_of_start (hsize : text.length < UInt64.size)
    (h : (Keeper.mk verifier policy).start text = .ok loaded) :
    ∃ registry : Registry, registry.StoredIn loaded.store ∧
      (∀ id record, registry.records[id]? = some record ↔
        (Keeper.mk verifier policy).LastOf loaded.document.state.records id record) ∧
      inspect verifier text = .ok (reportText loaded.document.state (shownNodes registry)) := by
  obtain ⟨registry, hstored, hkeys, hrecords⟩ := Keeper.exists_registry_of_start hsize h
  have hversion : loaded.document.version = 2 := by
    rw [Genesis.eq_current_of_load (Keeper.start_eq_ok_iff.1 h).1]
    rfl
  refine ⟨registry, hstored, hrecords, ?_⟩
  rw [inspect, Keeper.start_with_policy verifier .overwrite policy, h]
  dsimp only
  rw [ofLoaded_eq hstored, hversion, hkeys]
  exact congrArg Except.ok (text_eq_reportText ..)

theorem mem_shownNodes_iff_proven {keeper : Keeper} {registry : Registry}
    {records : List NodeRecord}
    (hrecords : ∀ id record, registry.records[id]? = some record ↔ keeper.LastOf records id record)
    (id : NodeId) : id ∈ (shownNodes registry).map Prod.fst ↔
      ∃ record ∈ records, keeper.Proves record id := by
  constructor
  · intro hmem
    obtain ⟨⟨found, flag⟩, hfound, rfl⟩ := List.mem_map.1 hmem
    obtain ⟨record, hrecord, -⟩ := mem_shownNodes.1 hfound
    have hlast := (hrecords found record).1 hrecord
    have hproves : keeper.Proves record found := by
      obtain ⟨-, -, -, hproves, -⟩ := hlast
      exact hproves
    exact ⟨record, hlast.mem, hproves⟩
  · intro hproven
    obtain ⟨record, hlast⟩ := Keeper.exists_lastOf hproven
    have hmem := mem_shownNodes.2 ⟨record, (hrecords id record).2 hlast, rfl⟩
    exact List.mem_map_of_mem (f := Prod.fst) hmem

theorem length_eq_ncard {nodes : List (NodeId × Bool)} {p : NodeId → Prop}
    (hpairwise : (nodes.map Prod.fst).Pairwise (· < ·)) (h : ∀ id, id ∈ nodes.map Prod.fst ↔ p id) :
    nodes.length = {id | p id}.ncard := by
  have hnodup : (nodes.map Prod.fst).Nodup := by
    refine hpairwise.imp fun {a b} hlt heq => ?_
    rw [heq] at hlt
    exact List.lt_irrefl b.octets hlt
  have hset : {id | p id} = ↑(nodes.map Prod.fst).toFinset := by
    ext id
    rw [Finset.mem_coe, List.mem_toFinset, h]
    exact Iff.rfl
  rw [hset, Set.ncard_coe_finset, List.toFinset_card_of_nodup hnodup, List.length_map]

theorem inspect_of_start_error {error : StartError}
    (h : (Keeper.mk verifier policy).start text = .error error) :
    inspect verifier text = .error error := by
  rw [inspect, Keeper.start_with_policy verifier .overwrite policy, h]

theorem inspect_eq_error_iff (hsize : text.length < UInt64.size) {error : StartError} :
    inspect verifier text = .error error ↔
      (Keeper.mk verifier policy).start text = .error error := by
  refine ⟨fun h => ?_, inspect_of_start_error⟩
  cases hstart : (Keeper.mk verifier policy).start text with
  | error found =>
    rw [inspect_of_start_error hstart] at h
    exact congrArg Except.error (Except.error.inj h)
  | ok loaded =>
    obtain ⟨registry, -, -, hreport⟩ := inspect_of_start hsize hstart
    rw [hreport] at h
    cases h

theorem exists_inspect_iff (hsize : text.length < UInt64.size) :
    (∃ report, inspect verifier text = .ok report) ↔
      ∃ loaded, (Keeper.mk verifier policy).start text = .ok loaded := by
  constructor
  · rintro ⟨report, h⟩
    cases hstart : (Keeper.mk verifier policy).start text with
    | error found =>
      rw [inspect_of_start_error hstart] at h
      cases h
    | ok loaded => exact ⟨loaded, rfl⟩
  · rintro ⟨loaded, hstart⟩
    obtain ⟨registry, -, -, hreport⟩ := inspect_of_start hsize hstart
    exact ⟨_, hreport⟩

/-- The count of the records that ends a gateway's start never fails. -/
theorem startFrom_eq {keeper : Keeper} (hsize : text.length < UInt64.size) :
    Gateway.Settings.startFrom keeper text =
      ((keeper.start text).map fun loaded => (keeper, loaded.store)).mapError
        Gateway.SetupError.badGenesis := by
  rw [Gateway.Settings.startFrom]
  cases hstart : keeper.start text with
  | error error => rfl
  | ok loaded =>
    obtain ⟨registry, hstored, -⟩ := Keeper.exists_registry_of_start hsize hstart
    dsimp only
    rw [hstored.count]
    rfl

/-- A report on a text shorter than `2 ^ 64` octets is made exactly if a keeper starts from it,
under either policy, and fails for the same reason otherwise; a gateway whose settings name the text
starts as its keeper does. The report shows the current version, which master keys the document
has, how many nodes its records prove, and each of these once in ascending order: as many as the
started keeper counts, and each authenticated if the keeper says so, which is if the last record of
the node holds a seed. -/
theorem inspect_mirrors_gateway (verifier : Verifier) (policy : MasterKeyPolicy) (text : Bytes)
    (hsize : text.length < UInt64.size) :
    let keeper : Keeper := ⟨verifier, policy⟩
    (∀ error, inspect verifier text = .error error ↔ keeper.start text = .error error) ∧
    ((∃ report, inspect verifier text = .ok report) ↔ ∃ loaded, keeper.start text = .ok loaded) ∧
    (∀ loaded, keeper.start text = .ok loaded → ∃ nodes : List (NodeId × Bool),
      inspect verifier text = .ok (reportText loaded.document.state nodes) ∧
      (nodes.map Prod.fst).Pairwise (· < ·) ∧
      (∀ id, id ∈ nodes.map Prod.fst ↔
        ∃ record ∈ loaded.document.state.records, keeper.Proves record id) ∧
      nodes.length =
        {id | ∃ record ∈ loaded.document.state.records, keeper.Proves record id}.ncard ∧
      Query.count loaded.store = .ok nodes.length ∧
      ∀ id flag, (id, flag) ∈ nodes → Query.isAuthenticated loaded.store id = .ok flag ∧
        ∃ record, keeper.LastOf loaded.document.state.records id record ∧
          record.isProvisioned = flag) ∧
    ∀ {σ : Type} (files : Surroundings (StateM σ)) (state : σ) (settings : Gateway.Settings)
      (path : String), settings.policy = policy →
      settings.verifier.runIn files state = (.ok verifier, state) →
      files.Reads path state (.ok text) →
      (settings.withGenesis path).start.runIn files state =
        (((keeper.start text).map fun loaded => (keeper, loaded.store)).mapError
          Gateway.SetupError.badGenesis, state) := by
  intro keeper
  refine ⟨fun error => inspect_eq_error_iff hsize, exists_inspect_iff hsize, ?_, ?_⟩
  · intro loaded hstart
    obtain ⟨registry, hstored, hrecords, hreport⟩ := inspect_of_start hsize hstart
    have hproven := mem_shownNodes_iff_proven hrecords
    have hcount : Query.count loaded.store = .ok (shownNodes registry).length := by
      rw [hstored.count, shownNodes, List.length_map]
    refine ⟨shownNodes registry, hreport, pairwise_shownNodes registry, hproven,
      length_eq_ncard (pairwise_shownNodes registry) hproven, hcount, fun id flag hmem => ?_⟩
    obtain ⟨record, hrecord, hflag⟩ := mem_shownNodes.1 hmem
    refine ⟨?_, record, (hrecords id record).1 hrecord, hflag⟩
    rw [hstored.isAuthenticated, hrecord, ← hflag]
    rfl
  · rintro σ files state settings path rfl hverifier hread
    rw [Gateway.Settings.runIn_start_ok hverifier hread, startFrom_eq hsize]

def twiceText : Bytes := Schema.toJson (Genesis.Document.current Keeper.twiceRegistered)

theorem proves_plain_iff {policy : MasterKeyPolicy} {octets : Bytes} {seed : Option EncryptedSeed}
    {id : NodeId} (h : octets ≠ []) :
    (Keeper.plain policy).Proves ⟨⟨octets⟩, seed⟩ id ↔ id = ⟨octets⟩ := by
  have haccepts : (Keeper.plain policy).Accepts ⟨octets⟩ ⟨.mock, octets⟩ := if_neg h
  constructor
  · rintro ⟨identity, hidentity, rfl⟩
    rw [← haccepts.unique hidentity]
    rfl
  · rintro rfl
    exact ⟨_, haccepts, rfl⟩

theorem inspect_mirrors_gateway_twice :
    twiceText.length < UInt64.size ∧ ∃ loaded nodes,
      (Keeper.plain .setOnce).start twiceText = .ok loaded ∧
      inspect (Keeper.plain .setOnce).verifier twiceText =
        .ok (reportText Keeper.twiceRegistered nodes) ∧
      Query.count loaded.store = .ok 2 := by
  let keeper := Keeper.plain .setOnce
  have hsize : twiceText.length < UInt64.size := by decide +kernel
  have hresult : (keeper.loadEmpty Keeper.twiceRegistered).1 = .ok () := rfl
  let loaded : Loaded :=
    ⟨.current Keeper.twiceRegistered, (keeper.loadEmpty Keeper.twiceRegistered).2.store⟩
  have hstart : keeper.start twiceText = .ok loaded :=
    Keeper.start_eq_ok_iff.2 ⟨Genesis.load_of_writes (.inl rfl),
      (Keeper.loadGenesis_eq_ok_iff _ _).1 hresult, Keeper.overlays_of_loadGenesis hresult⟩
  obtain ⟨-, -, hreport, -⟩ := inspect_mirrors_gateway keeper.verifier .setOnce twiceText hsize
  obtain ⟨nodes, htext, -, -, hlength, hcount, -⟩ := hreport loaded hstart
  have hproven : {id | ∃ record ∈ loaded.document.state.records, keeper.Proves record id} =
      {⟨[7]⟩, ⟨[3]⟩} := by
    ext id
    change (∃ record ∈ Keeper.twiceRegistered.records, keeper.Proves record id) ↔ _
    simp only [Keeper.twiceRegistered, List.mem_cons, List.not_mem_nil, or_false,
      exists_eq_or_imp, exists_eq_left, keeper, proves_plain_iff (List.cons_ne_nil _ _),
      Set.mem_insert_iff, Set.mem_singleton_iff]
    tauto
  refine ⟨hsize, loaded, nodes, hstart, htext, ?_⟩
  have htwo : nodes.length = 2 := hlength.trans (hproven ▸ Set.ncard_pair (by decide))
  rw [hcount, htwo]

end Tool
end EnclaveRegistry
