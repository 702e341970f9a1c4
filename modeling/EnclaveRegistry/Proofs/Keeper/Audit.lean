import EnclaveRegistry.Attestation.Mock
import EnclaveRegistry.Proofs.Keeper.EnclaveCall

/-! # What the log tells of writes and refusals

Every write is followed by the notice that names what has been written, and no such notice is given
without its write. A certificate that is refused is noticed as a warning, except by the operations
that need an identity before they may ask the enclave for a seed.
-/
namespace EnclaveRegistry

namespace Notice

/-- The key of the entry whose write a notice tells of, if it tells of one. -/
def writtenKey? : Notice → Option Bytes
  | masterKeySet type _ => some type.storeKey
  | recordWritten id _ _ => some id.storeKey
  | _ => none

/-- Whether a notice names, at level info, the master key or the node whose entry is under a key. -/
structure Names (notice : Notice) (key : Bytes) : Prop where
  level : notice.level = .info
  field : (∃ type : MasterKeyType, key = type.storeKey ∧ ("key_type", type.tag) ∈ notice.fields) ∨
    ∃ id : NodeId, key = id.storeKey ∧ ("node_id", id.toHex) ∈ notice.fields

theorem names_of_writtenKey? {notice : Notice} {key : Bytes} (h : notice.writtenKey? = some key) :
    notice.Names key := by
  cases notice with
  | masterKeySet type length =>
    cases h
    exact ⟨rfl, .inl ⟨type, rfl, List.mem_cons_self⟩⟩
  | recordWritten id platform provisioned =>
    cases h
    exact ⟨rfl, .inr ⟨id, rfl, List.mem_cons_self⟩⟩
  | _ => cases h

end Notice

namespace Event

def notice? : Event → Option Notice
  | wrote _ _ => none
  | noticed notice => some notice
  | called _ => none

def notices (events : List Event) : List Notice := events.filterMap notice?

def noticedKeys (events : List Event) : List Bytes := (notices events).filterMap Notice.writtenKey?

/-- Whether every write among events is followed at once by the notice that tells of it, and no
other notice tells of a write. -/
inductive Audited : List Event → Prop
  | nil : Audited []
  | called (call : EnclaveCall) {rest} (audited : Audited rest) : Audited (called call :: rest)
  | noticed {notice : Notice} {rest} (silent : notice.writtenKey? = none) (audited : Audited rest) :
    Audited (noticed notice :: rest)
  | wrote {key : Bytes} (value : Bytes) {notice : Notice} {rest}
      (told : notice.writtenKey? = some key) (audited : Audited rest) :
    Audited (wrote key value :: Event.noticed notice :: rest)

namespace Audited

variable {a b : List Event}

theorem append (ha : Audited a) (hb : Audited b) : Audited (a ++ b) := by
  induction ha with
  | nil => exact hb
  | called call _ ih => exact .called call ih
  | noticed silent _ ih => exact .noticed silent ih
  | wrote value told _ ih => exact .wrote value told ih

theorem flatMap {α : Type} {f : α → List Event} {l : List α} (h : ∀ x ∈ l, Audited (f x)) :
    Audited (l.flatMap f) := by
  induction l with
  | nil => exact .nil
  | cons x rest ih =>
    obtain ⟨hhead, hrest⟩ := List.forall_mem_cons.1 h
    exact hhead.append (ih hrest)

theorem noticedKeys_eq (h : Audited a) : noticedKeys a = (entries a).map Prod.fst := by
  induction h with
  | nil => rfl
  | called call _ ih => exact ih
  | @noticed notice rest silent _ ih =>
    change (notice :: notices rest).filterMap Notice.writtenKey? = _
    rw [List.filterMap_cons_none silent]
    exact ih
  | @wrote key value notice rest told _ ih =>
    change (notice :: notices rest).filterMap Notice.writtenKey? = _
    rw [List.filterMap_cons_some told, entries_wrote, entries_noticed, List.map_cons]
    exact congrArg (key :: ·) ih

end Audited
end Event

open Event (Audited)

theorem audited_masterKeyEvents (type : MasterKeyType) (key : MasterKey) :
    Audited (masterKeyEvents type key) := .wrote _ rfl .nil

theorem audited_masterKeyEvents? (type : MasterKeyType) (key : Option MasterKey) :
    Audited (masterKeyEvents? type key) := by
  cases key with
  | none => exact .nil
  | some key => exact audited_masterKeyEvents type key

theorem audited_recordEvents (identity : Identity) (record : NodeRecord) :
    Audited (recordEvents identity record) := .wrote _ rfl .nil

theorem audited_recordsEvents (proven : List (Identity × NodeRecord)) :
    Audited (recordsEvents proven) :=
  .flatMap fun entry _ => audited_recordEvents entry.1 entry.2

theorem validate_ne_invalidCertificate {state : Genesis.State} {error : AttestationError} :
    state.validate ≠ .error (.invalidCertificate error) := by
  unfold Genesis.State.validate
  split <;> nofun

namespace Update.Ends

variable {keeper : Keeper} {store : MemoryStore} {update : Update}
  {result : Except KeeperError Answer} {events : List Event}

theorem audited (h : Ends keeper store update result events) : Audited events := by
  cases h with
  | keySet => exact audited_masterKeyEvents ..
  | recordRefused => exact .noticed rfl .nil
  | recordSet => exact audited_recordEvents ..
  | registrationKnown => exact .noticed rfl .nil
  | registrationFailed => exact .called _ .nil
  | registered => exact .called _ (audited_recordEvents ..)
  | networkFailed => exact .called _ .nil
  | networkSet =>
    have hrecord (identity : Identity) (record : NodeRecord) :
        Audited (recordEvents identity record ++
          [.noticed (.networkBootstrapped identity.nodeId)]) :=
      (audited_recordEvents identity record).append (.noticed rfl .nil)
    exact .called _ ((audited_masterKeyEvents ..).append
      ((audited_masterKeyEvents ..).append (hrecord ..)))
  | genesisRefused => exact .noticed rfl .nil
  | genesisLoaded =>
    exact (audited_masterKeyEvents? ..).append ((audited_masterKeyEvents? ..).append
      ((audited_recordsEvents _).append (.noticed rfl .nil)))
  | keyLocked | registrationRefused | registrationUnreadable | networkDefined | networkRefused |
    genesisInvalid | genesisConflict => exact .nil

theorem register_refused {certificate : Certificate} {enclave : Enclave}
    {error : AttestationError} (h : Ends keeper store (.register certificate enclave) result events)
    (hrefused : keeper.Refuses certificate error) :
    result = .error (.invalidCertificate error) := by
  cases h with
  | registrationRefused refused =>
    cases hrefused.symm.trans refused
    rfl
  | registrationUnreadable accepted => exact absurd hrefused accepted.not_refuses
  | registrationKnown accepted => exact absurd hrefused accepted.not_refuses
  | registrationFailed accepted => exact absurd hrefused accepted.not_refuses
  | registered accepted => exact absurd hrefused accepted.not_refuses

theorem bootstrapNetwork_refused {certificate : Certificate} {nodeExchangeKey ioKey : MasterKey}
    {enclave : Enclave} {error : AttestationError}
    (h : Ends keeper store (.bootstrapNetwork certificate nodeExchangeKey ioKey enclave) result
      events) (hundefined : Keeper.definedMasterKey? store = none)
    (hrefused : keeper.Refuses certificate error) :
    result = .error (.invalidCertificate error) := by
  cases h with
  | networkDefined defined => cases hundefined.symm.trans defined
  | networkRefused _ refused =>
    cases hrefused.symm.trans refused
    rfl
  | networkFailed _ accepted => exact absurd hrefused accepted.not_refuses
  | networkSet _ accepted => exact absurd hrefused accepted.not_refuses

/-- A refused certificate is noticed as a warning by the operations that never call an enclave, and
by no other one. -/
theorem warned_iff {error : AttestationError}
    (h : Ends keeper store update (.error (.invalidCertificate error)) events) :
    (∃ notice ∈ Event.notices events, notice.level = .warn) ↔
      (Operation.update update).mayCall = false := by
  cases h with
  | recordRefused => simp [Event.notices, Event.notice?, Notice.level, Operation.mayCall]
  | genesisRefused => simp [Event.notices, Event.notice?, Notice.level, Operation.mayCall]
  | genesisInvalid invalid => exact absurd invalid validate_ne_invalidCertificate
  | registrationRefused | registrationUnreadable | networkRefused =>
    simp [Event.notices, Operation.mayCall]

end Update.Ends

theorem Operation.audited (keeper : Keeper) (session : Session MemoryStore)
    (operation : Operation) : ∃ reply events,
      operation.perform keeper session = (reply, session.after events) ∧ Audited events := by
  cases operation with
  | inquiry inquiry =>
    refine ⟨inquiry.reply session.store, [], ?_, .nil⟩
    rw [perform, Session.after_nil]
  | update update =>
    obtain ⟨result, events, hends, hperform⟩ := perform_update keeper session update
    exact ⟨_, events, hperform, hends.audited⟩

theorem Operation.warned_iff {keeper : Keeper} {session : Session MemoryStore} {update : Update}
    {error : AttestationError} (h : ((Operation.update update).perform keeper session).1.result =
      .error (.invalidCertificate error)) :
    (∃ notice ∈ Event.notices ((Operation.update update).events keeper session),
      notice.level = .warn) ↔ (Operation.update update).mayCall = false := by
  obtain ⟨result, events, hends, hperform⟩ := perform_update keeper session update
  rw [hperform] at h
  obtain rfl : result = _ := h
  rw [events_of_perform hperform]
  exact hends.warned_iff

namespace Keeper

theorem audited_run (keeper : Keeper) (operations : List Operation)
    (session : Session MemoryStore) :
    ∃ events, (keeper.run operations session).2 = session.after events ∧ Audited events := by
  refine run_after_induction (P := fun _ events => Audited events) .nil ?_ operations session
  intro operation session
  obtain ⟨reply, first, hperform, hfirst⟩ := operation.audited keeper session
  exact ⟨reply, first, hperform, fun _ _ hlater => hfirst.append hlater⟩

/-- Every write of an operation is followed by a notice at level info that names its master key or
its node, and nothing else is told to be written; so it is over any run. A certificate that an
update refuses is noticed as a warning, unless the update is one of those that may ask the enclave
for a seed. -/
theorem writes_are_noticed (keeper : Keeper) (session : Session MemoryStore) :
    (∀ operation : Operation, Audited (operation.events keeper session) ∧
      Event.noticedKeys (operation.events keeper session) =
        (Event.entries (operation.events keeper session)).map Prod.fst) ∧
    (∀ operations, ∃ events, (keeper.run operations session).2 = session.after events ∧
      Audited events ∧ Event.noticedKeys events = (Event.entries events).map Prod.fst) ∧
    (∀ (notice : Notice) (key : Bytes), notice.writtenKey? = some key → notice.Names key) ∧
    ∀ (update : Update) (error : AttestationError),
      ((Operation.update update).perform keeper session).1.result =
        .error (.invalidCertificate error) →
      ((∃ notice ∈ Event.notices ((Operation.update update).events keeper session),
        notice.level = .warn) ↔ (Operation.update update).mayCall = false) := by
  refine ⟨fun operation => ?_, fun operations => ?_, fun notice key => ?_, fun update error => ?_⟩
  · obtain ⟨reply, events, hperform, haudited⟩ := operation.audited keeper session
    rw [Operation.events_of_perform hperform]
    exact ⟨haudited, haudited.noticedKeys_eq⟩
  · obtain ⟨events, hrun, haudited⟩ := keeper.audited_run operations session
    exact ⟨events, hrun, haudited, haudited.noticedKeys_eq⟩
  · exact Notice.names_of_writtenKey?
  · exact Operation.warned_iff

theorem writes_are_noticed_refused_record :
    (Notice.masterKeySet .io 32).Names MasterKeyType.io.storeKey ∧
    ∃ notice ∈ Event.notices ((Operation.update (.setRecord ⟨⟨[]⟩, none⟩)).events
      (plain .overwrite) ⟨.empty, []⟩), notice.level = .warn := by
  obtain ⟨-, -, hnames, hwarned⟩ := writes_are_noticed (plain .overwrite) ⟨.empty, []⟩
  exact ⟨hnames _ _ rfl, (hwarned (.setRecord ⟨⟨[]⟩, none⟩) .badSignature rfl).2 rfl⟩

/-- A text that is no certificate is refused without any notice where a node registers, and where
the first node of a network does. -/
theorem refused_registration_unnoticed :
    let keeper : Keeper := ⟨Mock.verifier, .overwrite⟩
    let session : Session MemoryStore := ⟨.empty, []⟩
    ∃ error, keeper.Refuses ⟨Bytes.ascii "bogus"⟩ error ∧
      (∀ update ∈ [Update.register ⟨Bytes.ascii "bogus"⟩ .mock,
          .bootstrapNetwork ⟨Bytes.ascii "bogus"⟩ ⟨[1]⟩ ⟨[2]⟩ .mock],
        ((Operation.update update).perform keeper session).1.result =
          .error (.invalidCertificate error) ∧
        ¬ ∃ notice ∈ Event.notices ((Operation.update update).events keeper session),
          notice.level = .warn) := by
  intro keeper session
  have hnone : (keeper.verifier.verify (Bytes.ascii "bogus")).toOption = none := by
    decide +kernel
  obtain ⟨error, hrefused⟩ : ∃ error, keeper.Refuses ⟨Bytes.ascii "bogus"⟩ error := by
    cases hverify : keeper.verifier.verify (Bytes.ascii "bogus") with
    | ok identity =>
      rw [hverify] at hnone
      cases hnone
    | error error => exact ⟨error, hverify⟩
  refine ⟨error, hrefused, ?_⟩
  intro update hupdate
  have hresult : ((Operation.update update).perform keeper session).1.result =
      .error (.invalidCertificate error) := by
    obtain ⟨result, events, hends, hperform⟩ := Operation.perform_update keeper session update
    rw [hperform]
    rcases List.mem_pair.1 hupdate with rfl | rfl
    · exact hends.register_refused hrefused
    · exact hends.bootstrapNetwork_refused rfl hrefused
  refine ⟨hresult, fun hwarned => ?_⟩
  have hquiet := (Operation.warned_iff hresult).1 hwarned
  rcases List.mem_pair.1 hupdate with rfl | rfl <;> cases hquiet

end Keeper
end EnclaveRegistry
