import EnclaveRegistry.Proofs.Keeper.Outcome
import EnclaveRegistry.Proofs.Keeper.Query

/-! # Calls to the enclave

An enclave makes seeds, and a seed that it has made must end up in the store. It is asked for one
only after everything that could still refuse the record of that seed has been checked.
-/
namespace EnclaveRegistry

/-! ## The calls of a trace -/

namespace Event

def call? : Event → Option EnclaveCall
  | wrote _ _ => none
  | noticed _ => none
  | called call => some call

def calls (events : List Event) : List EnclaveCall := events.filterMap call?

@[simp] theorem calls_nil : calls [] = [] := rfl

@[simp] theorem calls_wrote (key value : Bytes) (events : List Event) :
    calls (wrote key value :: events) = calls events := rfl

@[simp] theorem calls_noticed (n : Notice) (events : List Event) :
    calls (noticed n :: events) = calls events := rfl

@[simp] theorem calls_called (c : EnclaveCall) (events : List Event) :
    calls (called c :: events) = c :: calls events := rfl

@[simp] theorem calls_append (a b : List Event) : calls (a ++ b) = calls a ++ calls b :=
  List.filterMap_append

end Event

@[simp] theorem calls_masterKeyEvents (type : MasterKeyType) (key : MasterKey) :
    Event.calls (masterKeyEvents type key) = [] := rfl

@[simp] theorem calls_masterKeyEvents? (type : MasterKeyType) (key : Option MasterKey) :
    Event.calls (masterKeyEvents? type key) = [] := by
  cases key <;> rfl

@[simp] theorem calls_recordEvents (identity : Identity) (record : NodeRecord) :
    Event.calls (recordEvents identity record) = [] := rfl

@[simp] theorem calls_recordsEvents (proven : List (Identity × NodeRecord)) :
    Event.calls (recordsEvents proven) = [] := by
  induction proven with
  | nil => rfl
  | cons entry rest ih =>
    have hrest : Event.calls (rest.flatMap fun entry => recordEvents entry.1 entry.2) = [] := ih
    simp [recordsEvents, hrest]

/-! ## Nodes without a seed -/

/-- Whether a node has no seed: there is nothing under its key, or a record that can be read and
whose seed is not there or empty. -/
def LacksSeed (store : MemoryStore) (id : NodeId) : Prop :=
  KeyValueStore.get? store id.storeKey = none ∨
    ∃ value record, KeyValueStore.get? store id.storeKey = some value ∧
      Schema.ofRecord NodeRecord value = .ok record ∧
        ∀ seed, record.seed = some seed → seed.octets = []

theorem Query.provisionedSeed_eq_ok_none_iff {store : MemoryStore} {id : NodeId} :
    provisionedSeed store id = .ok none ↔ LacksSeed store id := by
  unfold LacksSeed
  rw [provisionedSeed, nodeRecord, lookup]
  cases hget : KeyValueStore.get? store id.storeKey with
  | none => simp
  | some value =>
    cases hread : Schema.ofRecord NodeRecord value with
    | error fault => simp [decode, hread]
    | ok record => simp [decode, hread, NodeRecord.provisionedSeed?_eq_none_iff]

/-! ## Single operations -/

/-- Whether an operation is one of those that may ask the enclave for a seed. -/
def Operation.mayCall : Operation → Bool
  | update (.register _ _) => true
  | update (.bootstrapNetwork _ _ _ _) => true
  | _ => false

/-- Whether a call asks for a seed and what it hands to the enclave has been verified. -/
def Keeper.VouchesFor (keeper : Keeper) : EnclaveCall → Prop
  | .loadSeed _ _ _ => False
  | .encryptedSeed certificate => ∃ identity, keeper.Accepts ⟨certificate⟩ identity
  | .genesisSeed publicKey =>
    ∃ certificate identity, keeper.Accepts certificate identity ∧ identity.publicKey = publicKey

namespace Operation

variable (keeper : Keeper) (session : Session MemoryStore) (operation : Operation)

def events : List Event :=
  (operation.perform keeper session).2.trace.drop session.trace.length

def calls : List EnclaveCall := Event.calls (operation.events keeper session)

/-- An operation succeeds with an answer, and entries are all that it writes. -/
structure Commits (answer : Answer) (entries : List Entry) : Prop where
  result : (operation.perform keeper session).1.result = .ok answer
  written : Event.entries (operation.events keeper session) = entries
  store : (operation.perform keeper session).2.store = writeAll session.store entries

/-- An operation fails with an error and writes nothing. -/
structure Aborts (error : KeeperError) : Prop where
  result : (operation.perform keeper session).1.result = .error error
  written : Event.entries (operation.events keeper session) = []
  store : (operation.perform keeper session).2.store = session.store

/-- What the enclave answers decides how an operation ends that seeds a node: an error is its
error, and a seed is stored with the certificate of the node as the last thing that is written. -/
structure Seeds (certificate : Certificate) (id : NodeId)
    (enclaveAnswer : Except EnclaveError Bytes) (answer : Bytes → Answer) (before : List Entry) :
    Prop where
  failed : ∀ error, enclaveAnswer = .error error → operation.Aborts keeper session (.enclave error)
  granted : ∀ seed, enclaveAnswer = .ok seed → operation.Commits keeper session (answer seed)
    (before ++ [recordEntry id (seededRecord certificate seed)])
  stored : ∀ seed, enclaveAnswer = .ok seed →
    KeyValueStore.get? (operation.perform keeper session).2.store id.storeKey =
      some (Schema.toRecord (seededRecord certificate seed))
  readBack : ∀ seed, enclaveAnswer = .ok seed → (seededRecord certificate seed).Fits →
    Query.nodeRecord (operation.perform keeper session).2.store id =
      .ok (some (seededRecord certificate seed))

variable {keeper session operation}

theorem events_of_perform {reply : KeeperReply} {events : List Event}
    (h : operation.perform keeper session = (reply, session.after events)) :
    operation.events keeper session = events := by
  rw [Operation.events, h]
  exact List.drop_left

theorem Aborts.of_perform {error : KeeperError} {events : List Event}
    (h : operation.perform keeper session = (⟨[], .error error⟩, session.after events))
    (hnone : Event.entries events = []) : operation.Aborts keeper session error := by
  constructor
  · rw [h]
  · rw [events_of_perform h, hnone]
  · rw [h]
    exact session.after_store_of_entries_eq_nil hnone

theorem Commits.of_perform {answer : Answer} {events : List Event}
    (h : operation.perform keeper session = (⟨[], .ok answer⟩, session.after events)) :
    operation.Commits keeper session answer (Event.entries events) := by
  constructor
  · rw [h]
  · rw [events_of_perform h]
  · rw [h]
    rfl

theorem Commits.get?_last {answer : Answer} {before : List Entry} {entry : Entry}
    (h : operation.Commits keeper session answer (before ++ [entry])) :
    KeyValueStore.get? (operation.perform keeper session).2.store entry.1 = some entry.2 := by
  rw [h.store, writeAll_append, writeAll_cons, writeAll_nil]
  exact MemoryStore.get?_set_self ..

theorem Seeds.of_perform {certificate : Certificate} {id : NodeId}
    {enclaveAnswer : Except EnclaveError Bytes} {answer : Bytes → Answer} {before : List Entry}
    {result : Except KeeperError Answer} {events : List Event}
    (h : operation.perform keeper session = (⟨[], result⟩, session.after events))
    (hends : (∃ error, enclaveAnswer = .error error ∧ result = .error (.enclave error) ∧
        Event.entries events = []) ∨
      ∃ seed, enclaveAnswer = .ok seed ∧ result = .ok (answer seed) ∧
        Event.entries events = before ++ [recordEntry id (seededRecord certificate seed)]) :
    operation.Seeds keeper session certificate id enclaveAnswer answer before := by
  rcases hends with ⟨error, rfl, rfl, hnone⟩ | ⟨seed, rfl, rfl, hentries⟩
  · have haborts := Aborts.of_perform h hnone
    refine ⟨?_, nofun, nofun, nofun⟩
    rintro _ ⟨⟩
    exact haborts
  · have hcommits := Commits.of_perform h
    rw [hentries] at hcommits
    have hstored := hcommits.get?_last
    constructor
    · exact nofun
    · rintro _ ⟨⟩
      exact hcommits
    · rintro _ ⟨⟩
      exact hstored
    · rintro _ ⟨⟩ hfits
      exact Query.lookup_of_get?_eq_some hstored hfits.schema

theorem perform_update (keeper : Keeper) (session : Session MemoryStore) (update : Update) :
    ∃ result events, Update.Ends keeper session.store update result events ∧
      (Operation.update update).perform keeper session = (⟨[], result⟩, session.after events) := by
  obtain ⟨result, events, hends⟩ := update.exists_ends keeper session.store
  exact ⟨result, events, hends, hends.perform⟩

end Operation

/-! ## How calls come about -/

theorem Keeper.definedMasterKey?_eq_none_iff {store : MemoryStore} :
    definedMasterKey? store = none ↔ ∀ type, Query.isMasterKeyDefined store type = false := by
  constructor
  · exact isMasterKeyDefined_of_definedMasterKey?_eq_none
  · intro h
    refine List.find?_eq_none.2 ?_
    intro type _
    simp [h type]

namespace Update.Ends

variable {keeper : Keeper} {store : MemoryStore} {update : Update} {certificate : Certificate}
  {nodeExchangeKey ioKey : MasterKey} {enclave : Enclave} {identity : Identity}
  {result : Except KeeperError Answer} {events : List Event}

theorem length_calls_le (h : Ends keeper store update result events) :
    (Event.calls events).length ≤ (Operation.update update).mayCall.toNat := by
  cases h <;> simp [Operation.mayCall]

theorem vouches_of_mem_calls (h : Ends keeper store update result events) :
    ∀ call ∈ Event.calls events, keeper.VouchesFor call := by
  cases h with
  | registrationFailed accepted _ _ => simpa [Keeper.VouchesFor] using ⟨_, accepted⟩
  | registered accepted _ _ => simpa [Keeper.VouchesFor] using ⟨_, accepted⟩
  | networkFailed _ accepted _ => simpa [Keeper.VouchesFor] using ⟨_, _, accepted, rfl⟩
  | networkSet _ accepted _ => simpa [Keeper.VouchesFor] using ⟨_, _, accepted, rfl⟩
  | _ => simp

theorem fresh_of_mem_calls (h : Ends keeper store (.register certificate enclave) result events)
    {call : EnclaveCall} (hcall : call ∈ Event.calls events) :
    call = .encryptedSeed certificate.octets ∧ ∃ identity, keeper.Accepts certificate identity ∧
      Query.provisionedSeed store identity.nodeId = .ok none := by
  cases h with
  | registrationFailed accepted fresh _ => exact ⟨by simpa using hcall, _, accepted, fresh⟩
  | registered accepted fresh _ => exact ⟨by simpa using hcall, _, accepted, fresh⟩
  | _ => simp at hcall

theorem undefined_of_mem_calls
    (h : Ends keeper store (.bootstrapNetwork certificate nodeExchangeKey ioKey enclave) result
      events) {call : EnclaveCall} (hcall : call ∈ Event.calls events) :
    Keeper.definedMasterKey? store = none ∧ ∃ identity, keeper.Accepts certificate identity ∧
      call = .genesisSeed identity.publicKey := by
  cases h with
  | networkFailed undefined accepted _ => exact ⟨undefined, _, accepted, by simpa using hcall⟩
  | networkSet undefined accepted _ => exact ⟨undefined, _, accepted, by simpa using hcall⟩
  | _ => simp at hcall

theorem register_of_fresh (h : Ends keeper store (.register certificate enclave) result events)
    (haccepted : keeper.Accepts certificate identity)
    (hfresh : Query.provisionedSeed store identity.nodeId = .ok none) :
    Event.calls events = [.encryptedSeed certificate.octets] ∧
    ((∃ error, enclave.encryptedSeed certificate.octets = .error error ∧
      result = .error (.enclave error) ∧ Event.entries events = []) ∨
    ∃ seed, enclave.encryptedSeed certificate.octets = .ok seed ∧
      result = .ok (.seed identity.nodeId ⟨seed⟩) ∧ Event.entries events =
        [] ++ [recordEntry identity.nodeId (seededRecord certificate seed)]) := by
  -- All endings before the call are out, since nothing is refused and there is no seed to return.
  cases h with
  | registrationRefused refused => exact absurd refused haccepted.not_refuses
  | registrationUnreadable accepted unreadable =>
    cases haccepted.unique accepted
    cases hfresh.symm.trans unreadable
  | registrationKnown accepted known =>
    cases haccepted.unique accepted
    cases hfresh.symm.trans known
  | registrationFailed accepted _ failed => exact ⟨rfl, .inl ⟨_, failed, rfl, rfl⟩⟩
  | registered accepted _ granted =>
    cases haccepted.unique accepted
    exact ⟨rfl, .inr ⟨_, granted, rfl, rfl⟩⟩

theorem bootstrapNetwork_of_undefined
    (h : Ends keeper store (.bootstrapNetwork certificate nodeExchangeKey ioKey enclave) result
      events) (hundefined : Keeper.definedMasterKey? store = none)
    (haccepted : keeper.Accepts certificate identity) :
    Event.calls events = [.genesisSeed identity.publicKey] ∧
    ((∃ error, enclave.genesisSeed identity.publicKey = .error error ∧
      result = .error (.enclave error) ∧ Event.entries events = []) ∨
    ∃ seed, enclave.genesisSeed identity.publicKey = .ok seed ∧
      result = .ok (.node identity.nodeId) ∧ Event.entries events =
        [masterKeyEntry .nodeExchange nodeExchangeKey, masterKeyEntry .io ioKey] ++
          [recordEntry identity.nodeId (seededRecord certificate seed)]) := by
  cases h with
  | networkDefined defined => cases hundefined.symm.trans defined
  | networkRefused _ refused => exact absurd refused haccepted.not_refuses
  | networkFailed _ accepted failed =>
    cases haccepted.unique accepted
    exact ⟨rfl, .inl ⟨_, failed, rfl, rfl⟩⟩
  | networkSet _ accepted granted =>
    cases haccepted.unique accepted
    exact ⟨rfl, .inr ⟨_, granted, rfl, rfl⟩⟩

end Update.Ends

theorem Operation.perform_eq_after (keeper : Keeper) (session : Session MemoryStore)
    (operation : Operation) : ∃ reply events,
    operation.perform keeper session = (reply, session.after events) ∧
      (Event.calls events).length ≤ operation.mayCall.toNat ∧
      ∀ call ∈ Event.calls events, keeper.VouchesFor call := by
  cases operation with
  | inquiry inquiry =>
    refine ⟨inquiry.reply session.store, [], ?_, Nat.zero_le _, nofun⟩
    rw [perform, Session.after_nil]
  | update update =>
    obtain ⟨result, events, hends, hperform⟩ := perform_update keeper session update
    exact ⟨_, events, hperform, hends.length_calls_le, hends.vouches_of_mem_calls⟩

namespace Keeper

variable {keeper : Keeper} {session : Session MemoryStore}

/-- A run makes no more calls than it has operations that may make one. -/
theorem run_eq_after (operations : List Operation) (session : Session MemoryStore) : ∃ events,
    (keeper.run operations session).2 = session.after events ∧
      (Event.calls events).length ≤ operations.countP Operation.mayCall ∧
      ∀ call ∈ Event.calls events, keeper.VouchesFor call := by
  refine run_after_induction (P := fun operations events =>
    (Event.calls events).length ≤ operations.countP Operation.mayCall ∧
      ∀ call ∈ Event.calls events, keeper.VouchesFor call) ⟨Nat.zero_le _, nofun⟩ ?_ operations
    session
  intro operation session
  obtain ⟨reply, first, hperform, hfirst, hproven⟩ := operation.perform_eq_after keeper session
  refine ⟨reply, first, hperform, ?_⟩
  rintro rest later ⟨hlater, hrest⟩
  constructor
  · have htoNat : operation.mayCall.toNat = if operation.mayCall then 1 else 0 := by
      cases operation.mayCall <;> rfl
    rw [Event.calls_append, List.length_append, List.countP_cons]
    omega
  · intro call hcall
    rw [Event.calls_append] at hcall
    rcases List.mem_append.1 hcall with hcall | hcall
    · exact hproven call hcall
    · exact hrest call hcall

theorem mem_calls_register_iff (certificate : Certificate) (enclave : Enclave)
    (call : EnclaveCall) :
    call ∈ (Operation.update (.register certificate enclave)).calls keeper session ↔
      call = .encryptedSeed certificate.octets ∧
        ∃ identity, keeper.Accepts certificate identity ∧
          LacksSeed session.store identity.nodeId := by
  obtain ⟨result, events, hends, hperform⟩ := Operation.perform_update keeper session
    (.register certificate enclave)
  rw [Operation.calls, Operation.events_of_perform hperform]
  constructor
  · intro hcall
    obtain ⟨heq, identity, haccepted, hfresh⟩ := hends.fresh_of_mem_calls hcall
    exact ⟨heq, identity, haccepted, Query.provisionedSeed_eq_ok_none_iff.1 hfresh⟩
  · rintro ⟨rfl, identity, haccepted, hlacks⟩
    have hfresh := Query.provisionedSeed_eq_ok_none_iff.2 hlacks
    rw [(hends.register_of_fresh haccepted hfresh).1]
    exact List.mem_singleton_self _

theorem seeds_register {certificate : Certificate} {identity : Identity}
    (haccepted : keeper.Accepts certificate identity)
    (hlacks : LacksSeed session.store identity.nodeId) (enclave : Enclave) :
    (Operation.update (.register certificate enclave)).Seeds keeper session certificate
      identity.nodeId (enclave.encryptedSeed certificate.octets)
      (fun seed => .seed identity.nodeId ⟨seed⟩) [] := by
  obtain ⟨result, events, hends, hperform⟩ := Operation.perform_update keeper session
    (.register certificate enclave)
  have hfresh := Query.provisionedSeed_eq_ok_none_iff.2 hlacks
  exact .of_perform hperform (hends.register_of_fresh haccepted hfresh).2

theorem mem_calls_bootstrapNetwork_iff (certificate : Certificate)
    (nodeExchangeKey ioKey : MasterKey) (enclave : Enclave) (call : EnclaveCall) :
    call ∈ (Operation.update (.bootstrapNetwork certificate nodeExchangeKey ioKey enclave)).calls
        keeper session ↔
      (∀ type, Query.isMasterKeyDefined session.store type = false) ∧
        ∃ identity, keeper.Accepts certificate identity ∧
          call = .genesisSeed identity.publicKey := by
  obtain ⟨result, events, hends, hperform⟩ := Operation.perform_update keeper session
    (.bootstrapNetwork certificate nodeExchangeKey ioKey enclave)
  rw [Operation.calls, Operation.events_of_perform hperform, ← definedMasterKey?_eq_none_iff]
  constructor
  · exact hends.undefined_of_mem_calls
  · rintro ⟨hundefined, identity, haccepted, rfl⟩
    rw [(hends.bootstrapNetwork_of_undefined hundefined haccepted).1]
    exact List.mem_singleton_self _

theorem seeds_bootstrapNetwork {certificate : Certificate} {identity : Identity}
    (hundefined : ∀ type, Query.isMasterKeyDefined session.store type = false)
    (haccepted : keeper.Accepts certificate identity) (nodeExchangeKey ioKey : MasterKey)
    (enclave : Enclave) :
    (Operation.update (.bootstrapNetwork certificate nodeExchangeKey ioKey enclave)).Seeds keeper
      session certificate identity.nodeId (enclave.genesisSeed identity.publicKey)
      (fun _ => .node identity.nodeId)
      [masterKeyEntry .nodeExchange nodeExchangeKey, masterKeyEntry .io ioKey] := by
  obtain ⟨result, events, hends, hperform⟩ := Operation.perform_update keeper session
    (.bootstrapNetwork certificate nodeExchangeKey ioKey enclave)
  have hnone := definedMasterKey?_eq_none_iff.2 hundefined
  exact .of_perform hperform (hends.bootstrapNetwork_of_undefined hnone haccepted).2

/-- The enclave is asked for a seed only when a node is registered or a network is set up, at most
once, and only about what has been verified. It is asked exactly when the node has no seed yet or
the network no master key, and then its answer decides how the operation ends. -/
theorem enclave_is_called_for_proven_nodes (keeper : Keeper) (session : Session MemoryStore) :
    (∀ operations, ∃ events, (keeper.run operations session).2.trace = session.trace ++ events ∧
      (Event.calls events).length ≤ operations.countP Operation.mayCall ∧
      ∀ call ∈ Event.calls events, keeper.VouchesFor call) ∧
    (∀ operation : Operation,
      (operation.calls keeper session).length ≤ operation.mayCall.toNat ∧
      ∀ call ∈ operation.calls keeper session, keeper.VouchesFor call) ∧
    (∀ certificate enclave,
      (∀ call, call ∈ (Operation.update (.register certificate enclave)).calls keeper session ↔
        call = .encryptedSeed certificate.octets ∧
          ∃ identity, keeper.Accepts certificate identity ∧
            LacksSeed session.store identity.nodeId) ∧
      ∀ identity, keeper.Accepts certificate identity → LacksSeed session.store identity.nodeId →
        (Operation.update (.register certificate enclave)).Seeds keeper session certificate
          identity.nodeId (enclave.encryptedSeed certificate.octets)
          (fun seed => .seed identity.nodeId ⟨seed⟩) []) ∧
    ∀ certificate nodeExchangeKey ioKey enclave,
      (∀ call, call ∈ (Operation.update
          (.bootstrapNetwork certificate nodeExchangeKey ioKey enclave)).calls keeper session ↔
        (∀ type, Query.isMasterKeyDefined session.store type = false) ∧
          ∃ identity, keeper.Accepts certificate identity ∧
            call = .genesisSeed identity.publicKey) ∧
      ∀ identity, (∀ type, Query.isMasterKeyDefined session.store type = false) →
        keeper.Accepts certificate identity →
        (Operation.update (.bootstrapNetwork certificate nodeExchangeKey ioKey enclave)).Seeds
          keeper session certificate identity.nodeId (enclave.genesisSeed identity.publicKey)
          (fun _ => .node identity.nodeId)
          [masterKeyEntry .nodeExchange nodeExchangeKey, masterKeyEntry .io ioKey] := by
  refine ⟨?_, ?_, ?_, ?_⟩
  · intro operations
    obtain ⟨events, hrun, hlength, hproven⟩ := run_eq_after operations session
    exact ⟨events, by rw [hrun]; rfl, hlength, hproven⟩
  · intro operation
    obtain ⟨reply, events, hperform, hlength, hproven⟩ := operation.perform_eq_after keeper session
    rw [Operation.calls, Operation.events_of_perform hperform]
    exact ⟨hlength, hproven⟩
  · intro certificate enclave
    refine ⟨mem_calls_register_iff certificate enclave, ?_⟩
    intro identity haccepted hlacks
    exact seeds_register haccepted hlacks enclave
  · intro certificate nodeExchangeKey ioKey enclave
    refine ⟨mem_calls_bootstrapNetwork_iff certificate nodeExchangeKey ioKey enclave, ?_⟩
    intro identity hundefined haccepted
    exact seeds_bootstrapNetwork hundefined haccepted nodeExchangeKey ioKey enclave

def marking : Enclave := ⟨fun _ _ _ => .ok (), fun octets => .ok (1 :: octets),
  fun octets => .ok (2 :: octets)⟩

def broken : Enclave := ⟨fun _ _ _ => .error (.callFailed "off"),
  fun _ => .error (.callFailed "off"), fun _ => .error (.callFailed "off")⟩

theorem enclave_is_called_for_proven_nodes_sample :
    ((plain .setOnce).Accepts ⟨[7]⟩ ⟨.mock, [7]⟩ ∧ LacksSeed Session.sample.store ⟨[7]⟩ ∧
      .encryptedSeed [7] ∈
        (Operation.update (.register ⟨[7]⟩ marking)).calls (plain .setOnce) .sample ∧
      (Operation.update (.register ⟨[7]⟩ marking)).Commits (plain .setOnce) .sample
        (.seed ⟨[7]⟩ ⟨[1, 7]⟩) [recordEntry ⟨[7]⟩ (seededRecord ⟨[7]⟩ [1, 7])] ∧
      (Operation.update (.register ⟨[7]⟩ broken)).Aborts (plain .setOnce) .sample
        (.enclave (.callFailed "off"))) ∧
    (∀ type, Query.isMasterKeyDefined MemoryStore.empty type = false) ∧
    .genesisSeed [7] ∈ (Operation.update (.bootstrapNetwork ⟨[7]⟩ ⟨[3]⟩ ⟨[4]⟩ marking)).calls
      (plain .setOnce) ⟨.empty, []⟩ ∧
    (Operation.update (.bootstrapNetwork ⟨[7]⟩ ⟨[3]⟩ ⟨[4]⟩ marking)).Commits (plain .setOnce)
      ⟨.empty, []⟩ (.node ⟨[7]⟩) [masterKeyEntry .nodeExchange ⟨[3]⟩, masterKeyEntry .io ⟨[4]⟩,
        recordEntry ⟨[7]⟩ (seededRecord ⟨[7]⟩ [2, 7])] := by
  have haccepted : (plain .setOnce).Accepts ⟨[7]⟩ ⟨.mock, [7]⟩ := rfl
  have hlacks : LacksSeed Session.sample.store ⟨[7]⟩ := by
    refine .inr ⟨Schema.toRecord (NodeRecord.mk ⟨[7]⟩ none), ⟨⟨[7]⟩, none⟩, ?_, ?_, nofun⟩
    · decide +kernel
    · rfl
  have hundefined : ∀ type, Query.isMasterKeyDefined MemoryStore.empty type = false := by
    intro type
    rfl
  obtain ⟨-, -, hregister, -⟩ :=
    enclave_is_called_for_proven_nodes (plain .setOnce) Session.sample
  obtain ⟨-, -, -, hbootstrap⟩ :=
    enclave_is_called_for_proven_nodes (plain .setOnce) ⟨.empty, []⟩
  obtain ⟨hcalls, hseeds⟩ := hregister ⟨[7]⟩ marking
  obtain ⟨-, hseedsBroken⟩ := hregister ⟨[7]⟩ broken
  obtain ⟨hgenesisCalls, hgenesis⟩ := hbootstrap ⟨[7]⟩ ⟨[3]⟩ ⟨[4]⟩ marking
  refine ⟨⟨haccepted, hlacks, ?_, ?_, ?_⟩, hundefined, ?_, ?_⟩
  · exact (hcalls _).2 ⟨rfl, _, haccepted, hlacks⟩
  · exact (hseeds _ haccepted hlacks).granted [1, 7] rfl
  · exact (hseedsBroken _ haccepted hlacks).failed (.callFailed "off") rfl
  · exact (hgenesisCalls _).2 ⟨hundefined, _, haccepted, rfl⟩
  · exact (hgenesis _ hundefined haccepted).granted [2, 7] rfl

end Keeper
end EnclaveRegistry
