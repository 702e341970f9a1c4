import EnclaveRegistry.Proofs.Gateway.Turn
import EnclaveRegistry.Proofs.Keeper.Atomicity
import EnclaveRegistry.Proofs.Keeper.Refinement

/-! # One seed for each node

Whatever a gateway is asked and in whichever order, the enclave makes at most one seed for a node.
Every registration of the node is answered with that seed, and its record stays as it is.
-/
namespace EnclaveRegistry.Gateway

/-- Whether the certificate that a turn brings and the seed that its enclave makes are shorter than
`2 ^ 64` octets, and the seed not empty. -/
structure Turn.Fits (turn : Turn) : Prop where
  certificate : ∀ {registration}, registrationOf turn.request = .ok registration →
    registration.certificate.octets.length < UInt64.size
  seed : ∀ {enclave certificate seed}, turn.enclave = some enclave →
    enclave.encryptedSeed certificate = .ok seed → seed ≠ [] ∧ seed.length < UInt64.size

namespace Round

/-- Whether a round registers a node with success. -/
def Registers (keeper : Keeper) (round : Round) (id : NodeId) : Prop :=
  IsRegistration round.turn.request ∧ round.response.status = 200 ∧
    ∃ registration identity, registrationOf round.turn.request = .ok registration ∧
      keeper.Accepts registration.certificate identity ∧ identity.nodeId = id

end Round

/-! ## One turn -/

theorem Quiet.entries_eq_nil {events : List Event} (h : Quiet events) :
    Event.entries events = [] := by
  rw [Event.entries, List.filterMap_eq_nil_iff]
  intro event hevent
  obtain ⟨notice, rfl⟩ := h event hevent
  rfl

variable {keeper : Keeper} {registry : Registry} {store : MemoryStore} {turn : Turn}

theorem Turn.Fits.seededRecord (h : turn.Fits) {registration : RegisterRequest} {enclave : Enclave}
    {seed : Bytes} (hread : registrationOf turn.request = .ok registration)
    (hattached : turn.enclave = some enclave)
    (hgranted : enclave.encryptedSeed registration.certificate.octets = .ok seed) :
    (seededRecord registration.certificate seed).Fits ∧
      (seededRecord registration.certificate seed).provisionedSeed? = some ⟨seed⟩ := by
  obtain ⟨hnonempty, hlength⟩ := h.seed hattached hgranted
  refine ⟨⟨h.certificate hread, ?_⟩, ?_⟩
  · intro other hother
    cases hother
    exact hlength
  · simp [NodeRecord.provisionedSeed?, hnonempty]

namespace Round

variable {round : Round} {after : Registry} {id : NodeId}

/-- Whether all rounds that register a node are answered with one seed, and its record holds that
seed and is the same from each of them on. -/
def OneSeed (keeper : Keeper) (id : NodeId) (seed : EncryptedSeed) (rounds : List Round) : Prop :=
  ∀ earlier round later, rounds = earlier ++ round :: later → round.Registers keeper id →
    round.response = .json (RegisterResponse.mk id seed) ∧
      ∃ record : NodeRecord, record.seed = some seed ∧
        ∀ other ∈ round :: later, Query.nodeRecord other.after id = .ok (some record)

theorem OneSeed.cons {seed : EncryptedSeed} {rest : List Round} (h : OneSeed keeper id seed rest)
    (hsilent : ¬ round.Registers keeper id) : OneSeed keeper id seed (round :: rest) := by
  intro earlier first later hsplit hregisters
  cases earlier with
  | nil =>
    cases hsplit
    exact absurd hregisters hsilent
  | cons head earlier =>
    cases hsplit
    exact h earlier first later rfl hregisters

end Round

/-! ## Runs of requests -/

open Round (OneSeed)

variable {turns : List Turn} {id : NodeId}

def Turn.sample : Turn where
  enclave := some { Enclave.mock with encryptedSeed := fun _ => .ok [5] }
  request := ⟨"POST", Bytes.ascii "/registration/v1beta1/register", some "application/json",
    Utf8.encode "\x7b\x22certificate\x22:\x22Bw==\x22\x7d"⟩

theorem Turn.sample_fits : sample.Fits where
  certificate {registration} hread := by
    have hsample : (registrationOf sample.request).toOption = some ⟨⟨[7]⟩⟩ := by decide +kernel
    rw [hread] at hsample
    cases hsample
    exact (by decide : 1 < UInt64.size)
  seed hattached hgranted := by
    cases hattached
    cases hgranted
    exact ⟨nofun, by decide⟩

end EnclaveRegistry.Gateway
