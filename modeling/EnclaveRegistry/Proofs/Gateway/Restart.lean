import EnclaveRegistry.Attestation.Mock
import EnclaveRegistry.Attestation.Nitro
import EnclaveRegistry.Keeper.Start
import EnclaveRegistry.Proofs.Gateway.Turn
import EnclaveRegistry.Proofs.Genesis.Document
import EnclaveRegistry.Proofs.Keeper.Restoration

/-! # Restarts from an exported document

A gateway hands out its whole state as a document. Whoever starts from that document, compact or
over lines, has the same store as the gateway and answers every later request as it does.
-/
namespace EnclaveRegistry

/-! ## The empty certificate -/

theorem Mock.refusesEmpty : verifier.RefusesEmpty := by
  have hread : Json.Document.read [] = ⟨.gap .ended, false⟩ := by
    rw [Json.Document.read, Json.tokens]
    rfl
  have hcertificate : Schema.ofJson Certificate [] = .error (.ofFault .valueEnd) := by
    rw [Schema.ofJson, Schema.Shape.readDocument_eq hread]
    rfl
  refine ⟨.malformed (.unreadable (.ofFault .valueEnd)), ?_⟩
  change verify [] = _
  rw [verify, read, hcertificate]
  rfl

theorem Nitro.refusesEmpty (root : Bytes) : (verifier root).RefusesEmpty :=
  ⟨.envelopeUnreadable, rfl⟩

/-! ## Starts -/

theorem Keeper.start_of_writes {keeper : Keeper} {state : Genesis.State} {text : Bytes}
    {session : Session MemoryStore} (h : Schema.Writes text (Genesis.Document.current state))
    (hload : (keeper.loadGenesis state : Transaction MemoryStore Unit).run ⟨.empty, []⟩ =
      (.ok (), session)) : keeper.start text = .ok ⟨.current state, session.store⟩ := by
  rw [start, Genesis.load_of_writes h]
  simp only [Genesis.Document.current] at hload ⊢
  rw [hload]

namespace Gateway

def AsksForGenesis (request : Http.Request) : Prop :=
  request.method = "GET" ∧ Endpoint.ofPath? (Http.path request.target) = some .genesis

theorem Turn.response_of_asksForGenesis {keeper : Keeper} {turn : Turn} {store : MemoryStore}
    {state : Genesis.State} (h : AsksForGenesis turn.request)
    (hstate : Query.state store = .ok state) :
    (turn.round keeper store).response = .json (Genesis.Document.current state) := by
  let session : Session MemoryStore := ⟨store, []⟩
  have hroute : (route keeper turn.enclave turn.request).run session =
      (.ok (.json (Genesis.Document.current state)), session) := by
    have hanswer : answerGenesis store = .ok (.json (Genesis.Document.current state)) := by
      rw [answerGenesis, hstate]
      rfl
    have hmethod : turn.request.method ∈ Endpoint.genesis.methods := by
      simp [Endpoint.methods, h.1]
    rw [route, h.2]
    dsimp only
    rw [if_pos hmethod]
    exact Transaction.run_ofExcept hanswer session
  have hget : ¬ turn.request.method = "HEAD" := by
    rw [h.1]
    decide
  rw [Turn.round, run_serve hroute, respond, if_neg hget]

/-- The policy for master keys has no part in answering requests. -/
theorem rounds_policy (keeper : Keeper) (policy : MasterKeyPolicy) (turns : List Turn)
    (store : MemoryStore) :
    rounds ⟨keeper.verifier, policy⟩ turns store = rounds keeper turns store := by
  have hround (turn : Turn) (store : MemoryStore) :
      turn.round ⟨keeper.verifier, policy⟩ store = turn.round keeper store := rfl
  induction turns generalizing store with
  | nil => rfl
  | cons turn rest ih => rw [rounds, rounds, hround, ih]

/-- Every state that a keeper can reach is exported and comes back: a start from its document with
the same verifier, whatever the policy, succeeds, has exactly the store that the document was
exported from, and answers all later requests alike. The verifiers of both platforms refuse the
empty certificate, which is all that is asked of a verifier. -/
theorem restart_is_lossless :
    (Mock.verifier.RefusesEmpty ∧ ∀ root, (Nitro.verifier root).RefusesEmpty) ∧
    ∀ (keeper : Keeper) (operations : List Operation), keeper.verifier.RefusesEmpty →
      (∀ operation ∈ operations, operation.Fits) →
      ∃ state, Query.state (keeper.storeAfter operations) = .ok state ∧
        (∀ turn : Turn, AsksForGenesis turn.request →
          (turn.round keeper (keeper.storeAfter operations)).response =
            .json (Genesis.Document.current state)) ∧
        ∀ policy text, Schema.Writes text (Genesis.Document.current state) →
          ∃ loaded, Keeper.start ⟨keeper.verifier, policy⟩ text = .ok loaded ∧
            loaded.document = .current state ∧ loaded.store = keeper.storeAfter operations ∧
            Query.state loaded.store = .ok state ∧
            ∀ turns, rounds ⟨keeper.verifier, policy⟩ turns loaded.store =
              rounds keeper turns (keeper.storeAfter operations) := by
  refine ⟨⟨Mock.refusesEmpty, Nitro.refusesEmpty⟩, fun keeper operations hempty hfits => ?_⟩
  obtain ⟨-, hstored, -⟩ := Registry.empty_storedIn.run keeper hfits []
  change Registry.StoredIn _ (keeper.storeAfter operations) at hstored
  generalize (Registry.run keeper operations .empty).2 = registry at hstored
  have hproves : ∀ entry ∈ registry.entries, keeper.Proves entry.record entry.nodeId := by
    intro entry hentry
    refine Keeper.proves_of_nodeRecord hfits ?_
    rw [hstored.nodeRecord, registry.mem_entries.1 hentry]
  have hstate := hstored.readState
  refine ⟨registry.state, hstate, fun turn hturn => Turn.response_of_asksForGenesis hturn hstate,
    fun policy text htext => ?_⟩
  obtain ⟨trace, hrun⟩ :=
    Keeper.run_loadGenesis_state ⟨keeper.verifier, policy⟩ hempty hstored hproves
  exact ⟨_, Keeper.start_of_writes htext hrun, rfl, rfl, hstate,
    fun turns => rounds_policy keeper policy turns _⟩

def Turn.askForGenesis : Turn :=
  ⟨none, "GET", Bytes.ascii "/registration/v1beta1/genesis", none, []⟩

theorem restart_is_lossless_sample :
    (Keeper.plain .setOnce).verifier.RefusesEmpty ∧
    (∀ operation ∈ Operation.sample, operation.Fits) ∧
    AsksForGenesis Turn.askForGenesis.request ∧
    ∃ loaded,
      (Keeper.plain .overwrite).start (Turn.askForGenesis.round (.plain .setOnce)
        ((Keeper.plain .setOnce).storeAfter Operation.sample)).response.body = .ok loaded ∧
      loaded.store = (Keeper.plain .setOnce).storeAfter Operation.sample ∧
      Query.state loaded.store = .ok ⟨[⟨⟨[7]⟩, none⟩], none, some ⟨[1]⟩⟩ := by
  have hempty : (Keeper.plain .setOnce).verifier.RefusesEmpty := ⟨.badSignature, rfl⟩
  have hasks : AsksForGenesis Turn.askForGenesis.request := ⟨rfl, by decide⟩
  obtain ⟨state, hstate, hresponse, hrestart⟩ :=
    restart_is_lossless.2 (.plain .setOnce) Operation.sample hempty Operation.sample_fits
  have hbody := hresponse Turn.askForGenesis hasks
  obtain ⟨loaded, hstart, -, hstore, -⟩ := hrestart .overwrite _ (.inl rfl)
  refine ⟨hempty, Operation.sample_fits, hasks, loaded, ?_, hstore, ?_⟩
  · rw [hbody]
    exact hstart
  · rw [hstore]
    rfl

end Gateway
end EnclaveRegistry
