/-! # Byte strings

Certificates, keys, store entries and documents are finite sequences of octets.
Fixed-width numbers are written least significant octet first (`ofNatLE`) in records and
most significant octet first (`ofNatBE`) in signed messages and hash inputs.
-/
namespace EnclaveRegistry

/-- A finite sequence of octets, ordered lexicographically. -/
abbrev Bytes := List UInt8

namespace Bytes

/-- The `width` low-order octets of `value`, least significant first. -/
def ofNatLE : (width : Nat) → (value : Nat) → Bytes
  | 0, _ => []
  | width + 1, value => UInt8.ofNat value :: ofNatLE width (value / 256)

/-- The number whose octets are given least significant first. -/
def toNatLE : Bytes → Nat
  | [] => 0
  | b :: rest => b.toNat + 256 * toNatLE rest

def ofNatBE (width value : Nat) : Bytes := (ofNatLE width value).reverse

def toNatBE (bytes : Bytes) : Nat := toNatLE bytes.reverse

/-- The octets of an ASCII text; a character beyond ASCII keeps its low octet. -/
def ascii (text : String) : Bytes := text.toList.map fun c => UInt8.ofNat c.toNat

@[simp] theorem length_ofNatLE (width value : Nat) : (ofNatLE width value).length = width := by
  induction width generalizing value with
  | zero => rfl
  | succ width ih => simp [ofNatLE, ih]

@[simp] theorem length_ofNatBE (width value : Nat) : (ofNatBE width value).length = width := by
  simp [ofNatBE]

theorem toNatLE_ofNatLE (width value : Nat) (h : value < Nat.pow 256 width) :
    toNatLE (ofNatLE width value) = value := by
  induction width generalizing value with
  | zero => simp at h; simp [ofNatLE, toNatLE, h]
  | succ width ih =>
    have hdiv : value / 256 < Nat.pow 256 width := (Nat.div_lt_iff_lt_mul (by decide)).mpr h
    simp only [ofNatLE, toNatLE, ih _ hdiv, UInt8.toNat_ofNat']
    omega

end Bytes
end EnclaveRegistry
