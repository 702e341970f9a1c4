import EnclaveRegistry.Curve.P384
import EnclaveRegistry.Hash.Sha2

/-! # ECDSA over P-384 with SHA-384

A signature is a pair of nonzero numbers below the order of the curve.
-/
namespace EnclaveRegistry.Curve.Ecdsa

open P384 (Point order)

/-- A signature; both parts are nonzero and below the order. -/
structure Signature where
  r : Nat
  s : Nat
  r_pos : 0 < r
  s_pos : 0 < s
  r_lt : r < order
  s_lt : s < order

def Signature.ofParts? (r s : Nat) : Option Signature :=
  if h : (0 < r ∧ 0 < s) ∧ r < order ∧ s < order then
    some ⟨r, s, h.1.1, h.1.2, h.2.1, h.2.2⟩
  else none

def Signature.ofOctets? (octets : Bytes) : Option Signature :=
  if octets.length = 96 then
    ofParts? (Bytes.toNatBE (octets.take 48)) (Bytes.toNatBE (octets.drop 48))
  else none

def inverse (s : Nat) : Nat := repetition (fun a b => a * b % order) 1 s 384 (order - 2)

def verify (key : Point) (message : Bytes) (signature : Signature) : Bool :=
  let hash := Bytes.toNatBE (Hash.sha384 message) % order
  let scale := inverse signature.s
  let sum :=
    (Point.multiple (hash * scale % order) .base).add
      (Point.multiple (signature.r * scale % order) key)
  sum.affineX.val % order == signature.r

end EnclaveRegistry.Curve.Ecdsa
