import EnclaveRegistry.Proofs.Gateway.Route
import EnclaveRegistry.Proofs.Node.Id
import EnclaveRegistry.Tool.Command

/-! # The address of a node's material

The tool writes the address at which it asks a gateway for the material of a node, and the gateway
reads the node out of it again. What stands between them is the lowercase form of the identifier,
in which no octet has a meaning of its own.
-/
namespace EnclaveRegistry

def bootstrapRoute : String := "/registration/v1beta1/bootstrap/"

/-- The target at which a gateway has the material of a node. -/
def bootstrapTarget (id : NodeId) : String := bootstrapRoute ++ id.toHex

theorem encode_bootstrapTarget (id : NodeId) : Utf8.encode (bootstrapTarget id) =
    (Gateway.Endpoint.bootstrap (Hex.digits id.octets)).target := by
  have hroute : Utf8.encode bootstrapRoute = Bytes.ascii "/registration/v1beta1/bootstrap/" := by
    decide +kernel
  rw [bootstrapTarget, Utf8.encode_append, hroute, NodeId.toHex, Hex.utf8_encode]
  rfl

namespace Gateway

theorem escapes_digits (id : NodeId) :
    Http.Escapes (Hex.digits id.octets) (Hex.digits id.octets) := by
  have hplain : ∀ octet ∈ Hex.lowercase, octet ∉ [35, 37, 47, 63] := by decide +kernel
  exact .self fun octet hoctet => hplain octet (Hex.mem_lowercase_of_mem_digits hoctet)

theorem digits_ne_nil {id : NodeId} (h : id.octets ≠ []) : Hex.digits id.octets ≠ [] := by
  intro hnil
  have hlength := Hex.length_digits id.octets
  rw [hnil] at hlength
  exact h (List.length_eq_zero_iff.1 (by simpa using hlength.symm))

theorem ofPath?_bootstrapTarget {id : NodeId} (h : id.octets ≠ []) :
    Endpoint.ofPath? (Http.path (Utf8.encode (bootstrapTarget id))) =
      some (.bootstrap (Hex.digits id.octets)) := by
  have hgets : Gets ⟨"GET", Utf8.encode (bootstrapTarget id), none, []⟩
      (.bootstrap (Hex.digits id.octets)) := ⟨rfl, .inl (encode_bootstrapTarget id)⟩
  refine (hgets.asksFor ?_).2
  rintro raw ⟨⟩
  exact (escapes_digits id).isPart (digits_ne_nil h)

theorem nodeIdOf_digits (id : NodeId) : nodeIdOf (Hex.digits id.octets) = .ok id := by
  have hunescaped : Http.unescape (Hex.digits id.octets) = Utf8.encode id.toHex :=
    (escapes_digits id).unescape_eq.trans (Hex.utf8_encode id.octets).symm
  rw [nodeIdOf_eq (parameterText_eq hunescaped "node_id"), NodeId.parse_toHex]
  rfl

end Gateway

namespace Tool

def Unslashed (base : String) : Prop := base.toList.getLast? ≠ some '/'

variable {base : String}

theorem reverse_dropWhile_slashes (h : Unslashed base) (slashes : Nat) :
    ((base.toList ++ List.replicate slashes '/').reverse.dropWhile (· == '/')).reverse =
      base.toList := by
  have hslashes : ∀ c ∈ List.replicate slashes '/', (c == '/') = true := by
    intro c hc
    rw [List.eq_of_mem_replicate hc]
    rfl
  have hbase : base.toList.reverse.dropWhile (· == '/') = base.toList.reverse := by
    rw [Unslashed, ← List.head?_reverse] at h
    cases hreverse : base.toList.reverse with
    | nil => rfl
    | cons last before =>
      have hlast : ¬ (last == '/') = true := by
        intro heq
        rw [hreverse, List.head?_cons, eq_of_beq heq] at h
        exact h rfl
      rw [List.dropWhile_cons, if_neg hlast]
  rw [List.reverse_append, List.reverse_replicate, List.dropWhile_append_of_pos hslashes, hbase,
    List.reverse_reverse]

/-- However many slashes follow the base of a gateway, the address is the same. -/
theorem bootstrapAddress_eq (h : Unslashed base) (slashes : Nat) (id : NodeId) :
    bootstrapAddress (base ++ String.ofList (List.replicate slashes '/')) id =
      base ++ bootstrapTarget id := by
  have htrimmed : bootstrapAddress (base ++ String.ofList (List.replicate slashes '/')) id =
      String.ofList base.toList ++ bootstrapRoute ++ id.toHex := by
    rw [bootstrapAddress, String.toList_append, String.toList_ofList,
      reverse_dropWhile_slashes h slashes]
    rfl
  rw [htrimmed, String.ofList_toList, String.append_assoc]
  rfl

end Tool

end EnclaveRegistry
