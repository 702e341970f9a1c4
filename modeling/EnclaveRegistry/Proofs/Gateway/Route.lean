import EnclaveRegistry.Proofs.Gateway.Reading
import EnclaveRegistry.Proofs.Http.Target

/-! # The targets of the endpoints

Each endpoint has a target of its own, in which some endpoints have a parameter at the end. A
request for it reaches the endpoint, whatever its query is and however the parameter is escaped.
-/
namespace EnclaveRegistry.Gateway

open Http (IsPart Request)

/-- The target at which an endpoint is asked. -/
def Endpoint.target : Endpoint → Bytes
  | masterKey raw => Bytes.ascii "/registration/v1beta1/master-key/" ++ raw
  | registration raw => Bytes.ascii "/registration/v1beta1/registration/" ++ raw
  | authenticated raw => Bytes.ascii "/registration/v1beta1/authenticated/" ++ raw
  | registrations => Bytes.ascii "/registration/v1beta1/registrations"
  | bootstrap raw => Bytes.ascii "/registration/v1beta1/bootstrap/" ++ raw
  | genesis => Bytes.ascii "/registration/v1beta1/genesis"
  | register => Bytes.ascii "/registration/v1beta1/register"

def Endpoint.parameter? : Endpoint → Option Bytes
  | masterKey raw => some raw
  | registration raw => some raw
  | authenticated raw => some raw
  | bootstrap raw => some raw
  | registrations => none
  | genesis => none
  | register => none

/-- Whether a request is one to read at the target of an endpoint, with whatever query. -/
def Gets (request : Request) (endpoint : Endpoint) : Prop :=
  request.method = "GET" ∧ (request.target = endpoint.target ∨
    ∃ query, request.target = endpoint.target ++ 63 :: query)

variable {endpoint : Endpoint} {name raw : Bytes}

/-! ## Paths with a parameter -/

theorem split_named (hname : 47 ∉ name) (hraw : 47 ∉ raw) :
    Http.split 47 (Bytes.ascii "/registration/v1beta1/" ++ (name ++ 47 :: raw)) =
      basePath ++ [name, raw] := by
  have hbase : Bytes.ascii "/registration/v1beta1/" =
      [] ++ 47 :: (Bytes.ascii "registration" ++ 47 :: (Bytes.ascii "v1beta1" ++ [47])) := by
    decide +kernel
  rw [hbase]
  simp only [List.append_assoc, List.cons_append, List.nil_append (name ++ 47 :: raw)]
  rw [Http.split_append List.not_mem_nil, Http.split_append (by decide +kernel),
    Http.split_append (by decide +kernel), Http.split_append hname, Http.split_of_not_mem hraw]
  rfl

theorem ofPath?_named (hname : 47 ∉ name) (hraw : 47 ∉ raw) :
    Endpoint.ofPath? (Bytes.ascii "/registration/v1beta1/" ++ (name ++ 47 :: raw)) =
      Endpoint.ofParts? [name, raw] := by
  rw [Endpoint.ofPath?, split_named hname hraw]
  exact if_pos rfl

theorem exists_name (h : endpoint.parameter? = some raw) (hne : raw ≠ []) :
    ∃ name : Bytes, endpoint.target = Bytes.ascii "/registration/v1beta1/" ++ (name ++ 47 :: raw) ∧
      (∀ octet ∈ [35, 47, 63], octet ∉ name) ∧
      Endpoint.ofParts? [name, raw] = some endpoint := by
  have htarget {route name : Bytes}
      (hroute : route = Bytes.ascii "/registration/v1beta1/" ++ (name ++ [47])) :
      route ++ raw = Bytes.ascii "/registration/v1beta1/" ++ (name ++ 47 :: raw) := by
    rw [hroute, List.append_assoc, List.append_assoc]
    rfl
  -- Each name is found only after those in front of it in the router have been ruled out.
  cases endpoint with
  | masterKey other =>
    cases h
    refine ⟨Bytes.ascii "master-key", htarget (by decide +kernel), by decide +kernel, ?_⟩
    rw [Endpoint.ofParts?, if_neg hne, if_pos rfl]
  | registration other =>
    cases h
    refine ⟨Bytes.ascii "registration", htarget (by decide +kernel), by decide +kernel, ?_⟩
    rw [Endpoint.ofParts?, if_neg hne, if_neg (by decide +kernel), if_pos rfl]
  | authenticated other =>
    cases h
    refine ⟨Bytes.ascii "authenticated", htarget (by decide +kernel), by decide +kernel, ?_⟩
    rw [Endpoint.ofParts?, if_neg hne, if_neg (by decide +kernel), if_neg (by decide +kernel),
      if_pos rfl]
  | bootstrap other =>
    cases h
    refine ⟨Bytes.ascii "bootstrap", htarget (by decide +kernel), by decide +kernel, ?_⟩
    rw [Endpoint.ofParts?, if_neg hne, if_neg (by decide +kernel), if_neg (by decide +kernel),
      if_neg (by decide +kernel), if_pos rfl]
  | registrations => cases h
  | genesis => cases h
  | register => cases h

/-! ## Routes -/

/-- The target of an endpoint leads to it. -/
theorem ofPath?_target (h : ∀ raw ∈ endpoint.parameter?, IsPart raw) :
    35 ∉ endpoint.target ∧ 63 ∉ endpoint.target ∧
      Endpoint.ofPath? endpoint.target = some endpoint := by
  cases hparameter : endpoint.parameter? with
  | none =>
    cases endpoint with
    | registrations => decide +kernel
    | genesis => decide +kernel
    | register => decide +kernel
    | _ => cases hparameter
  | some raw =>
    have hpart := h raw hparameter
    obtain ⟨name, htarget, hname, hparts⟩ := exists_name hparameter hpart.ne_nil
    have hbase : ∀ octet ∈ [35, 63], octet ∈ [35, 47, 63] ∧
        octet ∉ Bytes.ascii "/registration/v1beta1/" ∧ octet ≠ 47 := by decide +kernel
    have hfree : ∀ octet ∈ [35, 63], octet ∉ endpoint.target := by
      intro octet hoctet
      obtain ⟨hmem, hbase, hne⟩ := hbase octet hoctet
      rw [htarget]
      simp [hbase, hname octet hmem, hpart.not_mem octet hmem, hne]
    refine ⟨hfree 35 (by simp), hfree 63 (by simp), ?_⟩
    rw [htarget, ofPath?_named (hname 47 (by simp)) (hpart.not_mem 47 (by simp)), hparts]

theorem Gets.asksFor {request : Request} (h : Gets request endpoint)
    (hpart : ∀ raw ∈ endpoint.parameter?, IsPart raw) : AsksFor request endpoint := by
  obtain ⟨hmethod, htarget⟩ := h
  obtain ⟨hfragment, hquery, hpath⟩ := ofPath?_target hpart
  refine ⟨hmethod, ?_⟩
  rcases htarget with htarget | ⟨query, htarget⟩
  · rw [htarget, Http.path_eq_self hquery hfragment, hpath]
  · rw [htarget, Http.path_append hquery hfragment, hpath]

end EnclaveRegistry.Gateway
