import EnclaveRegistry.Proofs.Keeper.Provisioning
import EnclaveRegistry.Proofs.Program
import EnclaveRegistry.Proofs.Schema.Json
import EnclaveRegistry.Proofs.Tool.Address

/-! # Bootstrap material on its way to an enclave

The tool asks a gateway for the material of a node and reads the answer, and an enclave is started
from what it has read. What the enclave is called with is what the store of the gateway holds, and
nothing is sent for a text that names no node.
-/
namespace EnclaveRegistry

open Program (Surroundings)

/-! ## The material of a node -/

namespace Query

variable {store : MemoryStore} {id : NodeId}

theorem stored_of_bootstrapMaterial {material : BootstrapMaterial}
    (h : bootstrapMaterial store id = .ok material) :
    (∃ record, nodeRecord store id = .ok (some record) ∧ record.seed = some material.seed) ∧
      masterKey store .nodeExchange = .ok (some material.nodeExchangeKey) ∧
      masterKey store .io = .ok (some material.ioKey) := by
  have hseed := provisionedSeed_eq_ok_some_iff.1 (provisionedSeed_of_bootstrapMaterial h)
  cases material
  obtain ⟨nodeExchangeKey, ioKey, hnode, hio, ⟨⟩⟩ := (bootstrapMaterial_eq_ok_iff hseed).1 h
  obtain ⟨record, hrecord, hseed, -⟩ := hseed
  exact ⟨⟨record, lookup_eq_ok_iff_holds.2 hrecord, hseed⟩, lookup_eq_ok_iff_holds.2 hnode,
    lookup_eq_ok_iff_holds.2 hio⟩

end Query

namespace BootstrapMaterial

/-- Whether starting any enclave from material is one call with a seed and two keys, and ends as the
enclave answers. -/
def CallsWith (material : BootstrapMaterial) (seed : EncryptedSeed)
    (nodeExchangeKey ioKey : MasterKey) : Prop :=
  ∀ {σ : Type} (enclave : Enclave) (session : Session σ), ∃ events,
    Event.calls events = [.loadSeed seed.octets nodeExchangeKey.octets ioKey.octets] ∧
      (material.loadInto enclave).run session =
        ((enclave.loadSeed seed.octets nodeExchangeKey.octets ioKey.octets).mapError .enclave,
          ⟨session.store, session.trace ++ events⟩)

theorem callsWith (material : BootstrapMaterial) :
    material.CallsWith material.seed material.nodeExchangeKey material.ioKey := by
  intro σ enclave session
  let call := EnclaveCall.loadSeed material.seed.octets material.nodeExchangeKey.octets
    material.ioKey.octets
  cases hanswer : enclave.loadSeed material.seed.octets material.nodeExchangeKey.octets
      material.ioKey.octets with
  | error error =>
    refine ⟨[.called call], rfl, ?_⟩
    rw [loadInto, hanswer]
    rfl
  | ok done =>
    refine ⟨[.called call, .noticed .materialLoaded], rfl, ?_⟩
    rw [loadInto, hanswer]
    change (Except.ok (), (⟨session.store, session.trace ++ [.called call] ++ [_]⟩ : Session σ)) = _
    rw [List.append_assoc]
    rfl

theorem unambiguous : (Schema.shapeOf BootstrapMaterial).Unambiguous := by
  simp [Schema.shapeOf, Schema.Described.shape, Schema.Shape.Unambiguous,
    Schema.Fields.Unambiguous, Schema.Fields.names]

end BootstrapMaterial

/-! ## Delivery -/

namespace Tool

open Gateway (Endpoint Outcome Turn nodeIdOf)

variable {text : String} {id : NodeId}

theorem run_fetchBootstrap_error (gateway : String) {error : Hex.Error}
    (h : NodeId.parse text = .error error) :
    (fetchBootstrap gateway text).run = .done (.error (.badNodeId error)) := by
  rw [fetchBootstrap, h]
  rfl

/-- Exactly one request is sent for an identifier. -/
theorem run_fetchBootstrap (gateway : String) (h : NodeId.parse text = .ok id) :
    (fetchBootstrap gateway text).run = .fetch (bootstrapAddress gateway id) fun answer =>
      .done (answer.mapError .unreachable >>= materialOf) := by
  have hnext (answer : Except Unreachable Reply) :
      (do accept (fun error => error) (materialOf (← accept .unreachable answer)) :
        Task ToolError BootstrapMaterial).run =
          .done (answer.mapError .unreachable >>= materialOf) := by
    cases answer with
    | error error => rfl
    | ok reply =>
      change (accept (fun error => error) (materialOf reply)).run = .done (materialOf reply)
      cases materialOf reply <;> rfl
  rw [fetchBootstrap, h]
  exact congrArg (Program.fetch _) (funext hnext)

def replyOf (response : Http.Response) : Reply := ⟨response.status, response.body⟩

theorem materialOf_json (material : BootstrapMaterial) :
    materialOf (replyOf (.json material)) = .ok material := by
  have hsuccess : Http.isSuccess 200 = true := rfl
  have hread : Schema.ofJson BootstrapMaterial (Schema.toJson material) = .ok material :=
    Schema.Writes.ofJson (.inl rfl) BootstrapMaterial.unambiguous
  simp only [materialOf, replyOf, Http.Response.json, hsuccess, hread, if_true]

theorem exists_materialOf_ofKeeperError (error : KeeperError) : ∃ body,
    Utf8.encode body = (Gateway.ofKeeperError error).body ∧
      materialOf (replyOf (Gateway.ofKeeperError error)) =
        .error (.refused (Gateway.ofKeeperError error).status body) := by
  have hplain : ∃ status text, Gateway.ofKeeperError error = .plain status text ∧
      Http.isSuccess status = false := by
    cases error <;> exact ⟨_, _, rfl, rfl⟩
  obtain ⟨status, body, hplain, hstatus⟩ := hplain
  refine ⟨body, ?_, ?_⟩
  · rw [hplain]
    rfl
  · rw [hplain]
    simp only [materialOf, replyOf, Http.Response.plain, hstatus, Utf8.decodeLossy_encode]
    rfl

def asking (enclave : Option Enclave) (target : String) : Turn :=
  ⟨enclave, "GET", Utf8.encode target, none, []⟩

def responseAt (keeper : Keeper) (enclave : Option Enclave) (store : MemoryStore)
    (target : String) : Http.Response :=
  ((asking enclave target).round keeper store).response

/-- Whether a request for a target behind a base reaches a gateway as it is, and the response comes
back as it is. -/
def Carries (surroundings : Surroundings (StateM MemoryStore)) (keeper : Keeper)
    (enclave : Option Enclave) (base target : String) : Prop :=
  ∀ store, (surroundings.fetch (base ++ target)).run store =
    (.ok (replyOf (responseAt keeper enclave store target)),
      ((asking enclave target).round keeper store).after)

/-- Whether a result of fetching is the material of a node, or else the gateway's refusal, and
material starts enclaves with what a store has for the node. -/
structure Delivers (store : MemoryStore) (id : NodeId) (response : Http.Response)
    (result : Except ToolError BootstrapMaterial) : Prop where
  granted : ∀ material, result = .ok material ↔ Query.bootstrapMaterial store id = .ok material
  refused : (∀ material, Query.bootstrapMaterial store id ≠ .ok material) →
    ∃ body, Utf8.encode body = response.body ∧ result = .error (.refused response.status body)
  loaded : ∀ material, result = .ok material → ∃ record seed nodeExchangeKey ioKey,
    Query.nodeRecord store id = .ok (some record) ∧ record.seed = some seed ∧
      Query.masterKey store .nodeExchange = .ok (some nodeExchangeKey) ∧
      Query.masterKey store .io = .ok (some ioKey) ∧
      material.CallsWith seed nodeExchangeKey ioKey

variable {keeper : Keeper} {enclave : Option Enclave} {store : MemoryStore}

theorem responseAt_bootstrapTarget (h : id.octets ≠ []) :
    responseAt keeper enclave store (bootstrapTarget id) =
      Outcome.shown ((Endpoint.bootstrap (Hex.digits id.octets)).read store
        (Http.query (Utf8.encode (bootstrapTarget id)))) :=
  Turn.response_of_asksFor ⟨rfl, Gateway.ofPath?_bootstrapTarget h⟩

theorem responseAt_ok (h : id.octets ≠ []) {material : BootstrapMaterial}
    (hmaterial : Query.bootstrapMaterial store id = .ok material) :
    responseAt keeper enclave store (bootstrapTarget id) = .json material := by
  rw [responseAt_bootstrapTarget h, Gateway.read_bootstrap_eq (Gateway.nodeIdOf_digits id),
    hmaterial]
  rfl

theorem responseAt_error (h : id.octets ≠ []) {error : KeeperError}
    (hmaterial : Query.bootstrapMaterial store id = .error error) :
    responseAt keeper enclave store (bootstrapTarget id) = Gateway.ofKeeperError error := by
  rw [responseAt_bootstrapTarget h, Gateway.read_bootstrap_eq (Gateway.nodeIdOf_digits id),
    hmaterial]
  rfl

theorem delivers (h : id.octets ≠ []) :
    Delivers store id (responseAt keeper enclave store (bootstrapTarget id))
      (materialOf (replyOf (responseAt keeper enclave store (bootstrapTarget id)))) := by
  cases hmaterial : Query.bootstrapMaterial store id with
  | ok found =>
    rw [responseAt_ok h hmaterial, materialOf_json]
    have hgranted (material : BootstrapMaterial) :
        (.ok found : Except ToolError BootstrapMaterial) = .ok material ↔
          Query.bootstrapMaterial store id = .ok material := by
      rw [hmaterial]
      simp only [Except.ok.injEq]
    refine ⟨hgranted, fun hnone => absurd hmaterial (hnone found), ?_⟩
    rintro _ ⟨⟩
    obtain ⟨⟨record, hrecord, hseed⟩, hnode, hio⟩ := Query.stored_of_bootstrapMaterial hmaterial
    exact ⟨record, _, _, _, hrecord, hseed, hnode, hio, found.callsWith⟩
  | error error =>
    rw [responseAt_error h hmaterial]
    obtain ⟨body, hbody, hread⟩ := exists_materialOf_ofKeeperError error
    rw [hread]
    exact ⟨fun material => by simp [hmaterial], fun _ => ⟨body, hbody, rfl⟩, nofun⟩

theorem after_asking (target : String) :
    ((asking enclave target).round keeper store).after = store :=
  Turn.after_of_get rfl

/-- How material gets from a gateway to an enclave. For a text that is no identifier nothing is
sent. For any other exactly one request is sent, to where the gateway has the material of the same
node, however many slashes follow the base. When requests and responses pass unchanged, the tool
ends with what the keeper has for the node, or with the status and the text of the gateway's
refusal; and an enclave that is started from it is called once, with the seed of the node and with
both master keys in their places. -/
theorem bootstrap_is_delivered {base : String} (hbase : Unslashed base) (slashes : Nat)
    (text : String) :
    (∀ error, NodeId.parse text = .error error → ∀ gateway,
      (fetchBootstrap gateway text).run = .done (.error (.badNodeId error))) ∧
    ∀ id, NodeId.parse text = .ok id → id.octets ≠ [] →
      (∃ next : Except Unreachable Reply → Except ToolError BootstrapMaterial,
        (fetchBootstrap (base ++ String.ofList (List.replicate slashes '/')) text).run =
          .fetch (base ++ bootstrapTarget id) fun answer => .done (next answer)) ∧
      (∃ raw, Endpoint.ofPath? (Http.path (Utf8.encode (bootstrapTarget id))) =
        some (.bootstrap raw) ∧ nodeIdOf raw = .ok id) ∧
      ∀ surroundings keeper enclave,
        Carries surroundings keeper enclave base (bootstrapTarget id) → ∀ store, ∃ result,
          (fetchBootstrap (base ++ String.ofList (List.replicate slashes '/')) text).runIn
            surroundings store = (result, store) ∧
          Delivers store id (responseAt keeper enclave store (bootstrapTarget id)) result := by
  refine ⟨fun error hparse gateway => run_fetchBootstrap_error gateway hparse, ?_⟩
  intro id hparse hid
  have hrun := run_fetchBootstrap (base ++ String.ofList (List.replicate slashes '/')) hparse
  rw [bootstrapAddress_eq hbase] at hrun
  refine ⟨⟨_, hrun⟩, ⟨_, Gateway.ofPath?_bootstrapTarget hid, Gateway.nodeIdOf_digits id⟩, ?_⟩
  intro surroundings keeper enclave hcarries store
  have hfetch := hcarries store
  rw [after_asking] at hfetch
  -- For any reply: with the response in its place, checking this step would read the response.
  have hread (reply : Reply) : (Except.mapError ToolError.unreachable (.ok reply) >>= materialOf) =
      materialOf reply := rfl
  have hend := Task.runIn_fetch hrun hfetch
  rw [hread] at hend
  exact ⟨_, hend, delivers hid⟩

def gatewayBehind (base : String) (keeper : Keeper) (enclave : Option Enclave) :
    Surroundings (StateM MemoryStore) where
  read _ := fun store => (.error .missing, store)
  write _ _ := fun store => (.error .denied, store)
  fetch address := fun store =>
    if base.toList.isPrefixOf address.toList then
      let target := String.ofList (address.toList.drop base.toList.length)
      (.ok (replyOf (responseAt keeper enclave store target)),
        ((asking enclave target).round keeper store).after)
    else (.error ⟨address⟩, store)

theorem carries_gatewayBehind (base target : String) :
    Carries (gatewayBehind base keeper enclave) keeper enclave base target := by
  intro store
  have hprefix : base.toList.isPrefixOf (base ++ target).toList = true := by
    rw [String.toList_append]
    exact List.isPrefixOf_iff_prefix.2 (List.prefix_append _ _)
  have htarget : String.ofList ((base ++ target).toList.drop base.toList.length) = target := by
    rw [String.toList_append, List.drop_left, String.ofList_toList]
  change (if base.toList.isPrefixOf (base ++ target).toList then _ else _) = _
  rw [if_pos hprefix, htarget]

def suppliedStore : MemoryStore := (Keeper.plain .setOnce).storeAfter
  [.update (.setMasterKey .nodeExchange ⟨[1]⟩), .update (.setMasterKey .io ⟨[2]⟩),
    .update (.setRecord ⟨⟨[10]⟩, some ⟨[9]⟩⟩)]

def suppliedGateway : Surroundings (StateM MemoryStore) :=
  gatewayBehind "http://gateway:3000" (.plain .setOnce) none

theorem bootstrap_is_delivered_sample :
    (NodeId.parse "0x7" = .error .oddLength ∧
      (fetchBootstrap "http://gateway:3000//" "0x7").run =
        .done (.error (.badNodeId .oddLength))) ∧
    Unslashed "http://gateway:3000" ∧ NodeId.parse "0x0A" = .ok ⟨[10]⟩ ∧
    Carries suppliedGateway (.plain .setOnce) none "http://gateway:3000"
      (bootstrapTarget ⟨[10]⟩) ∧
    (fetchBootstrap ("http://gateway:3000" ++ String.ofList (List.replicate 2 '/')) "0x0A").runIn
      suppliedGateway suppliedStore = (.ok ⟨⟨[9]⟩, ⟨[1]⟩, ⟨[2]⟩⟩, suppliedStore) ∧
    (BootstrapMaterial.mk ⟨[9]⟩ ⟨[1]⟩ ⟨[2]⟩).CallsWith ⟨[9]⟩ ⟨[1]⟩ ⟨[2]⟩ ∧
    ∃ status body,
      (fetchBootstrap ("http://gateway:3000" ++ String.ofList (List.replicate 2 '/')) "0x0A").runIn
        suppliedGateway .empty = (.error (.refused status body), .empty) := by
  have hodd : NodeId.parse "0x7" = .error .oddLength := by decide +kernel
  have hparse : NodeId.parse "0x0A" = .ok ⟨[10]⟩ := by decide +kernel
  have hbase : Unslashed "http://gateway:3000" := by
    rw [Unslashed]
    decide +kernel
  have hcarries : Carries suppliedGateway (.plain .setOnce) none "http://gateway:3000"
      (bootstrapTarget ⟨[10]⟩) := carries_gatewayBehind _ _
  have hmaterial : Query.bootstrapMaterial suppliedStore ⟨[10]⟩ =
      .ok ⟨⟨[9]⟩, ⟨[1]⟩, ⟨[2]⟩⟩ := rfl
  have hnone : ∀ material, Query.bootstrapMaterial MemoryStore.empty ⟨[10]⟩ ≠
      .ok material := nofun
  obtain ⟨hbad, -⟩ := bootstrap_is_delivered hbase 2 "0x7"
  obtain ⟨-, hgood⟩ := bootstrap_is_delivered hbase 2 "0x0A"
  obtain ⟨-, -, hfetch⟩ := hgood _ hparse (by decide)
  obtain ⟨result, hrun, hdelivers⟩ := hfetch _ _ _ hcarries suppliedStore
  obtain ⟨refusal, hrefusedRun, hrefused⟩ := hfetch _ _ _ hcarries .empty
  obtain rfl := (hdelivers.granted _).2 hmaterial
  obtain ⟨body, -, rfl⟩ := hrefused.refused hnone
  obtain ⟨record, seed, nodeExchangeKey, ioKey, hrecord, hseed, hnode, hio, hcalls⟩ :=
    hdelivers.loaded _ rfl
  have hstored : Query.nodeRecord suppliedStore ⟨[10]⟩ = .ok (some ⟨⟨[10]⟩, some ⟨[9]⟩⟩) := rfl
  have hstoredNode : Query.masterKey suppliedStore .nodeExchange = .ok (some ⟨[1]⟩) := rfl
  have hstoredIo : Query.masterKey suppliedStore .io = .ok (some ⟨[2]⟩) := rfl
  cases hstored.symm.trans hrecord
  cases hseed
  cases hstoredNode.symm.trans hnode
  cases hstoredIo.symm.trans hio
  exact ⟨⟨hodd, hbad _ hodd _⟩, hbase, hparse, hcarries, hrun, hcalls, _, body, hrefusedRun⟩

end Tool
end EnclaveRegistry
