import EnclaveRegistry.Proofs.Result
import EnclaveRegistry.Proofs.Text.Utf8
import EnclaveRegistry.Text.Hex

/-! # Hexadecimal texts are read back

Both digits of an octet give back its halves. No digit is the letter of the marker, so no byte
string is written as a text that seems to start with one. A text never stands for more octets than
it has itself.
-/
namespace EnclaveRegistry.Hex

open Result (bind_eq_ok_iff)

theorem digitValue?_digit : ∀ value < 16, digitValue? (digit value) = some value := by
  decide

theorem digit_ne_marker : ∀ value < 16, digit value ≠ 120 := by
  decide

theorem digitAt_digit {value : Nat} (h : value < 16) (position : Nat) :
    digitAt (digit value) position = .ok value := by
  rw [digitAt, digitValue?_digit value h]

theorem decodePairs_digits (bytes : Bytes) (position : Nat) :
    decodePairs (digits bytes) position = .ok bytes := by
  induction bytes generalizing position with
  | nil => rfl
  | cons b rest ih =>
    have hb := b.toNat_lt
    have hhalves : 16 * (b.toNat / 16) + b.toNat % 16 = b.toNat := by omega
    change decodePairs (digit (b.toNat / 16) :: digit (b.toNat % 16) :: digits rest) position = _
    rw [decodePairs, digitAt_digit (by omega), digitAt_digit (by omega)]
    simp only [Result.ok_bind, Result.pure_eq_ok, ih, hhalves, UInt8.ofNat_toNat]

theorem length_digits (bytes : Bytes) : (digits bytes).length = 2 * bytes.length := by
  induction bytes with
  | nil => rfl
  | cons b rest ih =>
    rw [digits, List.flatMap_cons, List.length_append]
    change 2 + (digits rest).length = _
    rw [ih, List.length_cons]
    omega

theorem decode_digits (bytes : Bytes) : decode (digits bytes) = .ok bytes := by
  have heven : ¬ (digits bytes).length % 2 = 1 := by rw [length_digits]; omega
  rw [decode, if_neg heven, decodePairs_digits]

@[simp] theorem parse_digits (bytes : Bytes) : parse (digits bytes) = .ok bytes := by
  have hmarker : ∀ rest, digits bytes ≠ 48 :: 120 :: rest := by
    intro rest h
    cases bytes with
    | nil => cases h
    | cons b bytes =>
      have hsecond : digit (b.toNat % 16) = 120 := (List.cons.inj (List.cons.inj h).2).1
      exact digit_ne_marker _ (by omega) hsecond
  rw [← decode_digits bytes, parse.eq_def]
  split
  · rename_i rest h
    exact absurd h (hmarker rest)
  · rfl

def lowercase : Bytes := Bytes.ascii "0123456789abcdef"

theorem digit_mem_lowercase : ∀ value < 16, digit value ∈ lowercase := by
  decide +kernel

theorem mem_lowercase_of_mem_digits {bytes : Bytes} {octet : UInt8} (h : octet ∈ digits bytes) :
    octet ∈ lowercase := by
  obtain ⟨b, -, hoctet⟩ := List.mem_flatMap.1 h
  have hb := b.toNat_lt
  simp only [List.mem_cons, List.not_mem_nil, or_false] at hoctet
  rcases hoctet with rfl | rfl
  · exact digit_mem_lowercase _ (by omega)
  · exact digit_mem_lowercase _ (by omega)

theorem toNat_lt_of_mem_digits {bytes : Bytes} {octet : UInt8} (h : octet ∈ digits bytes) :
    octet.toNat < 128 := by
  have hlowercase : ∀ octet ∈ lowercase, octet.toNat < 128 := by decide +kernel
  exact hlowercase octet (mem_lowercase_of_mem_digits h)

@[simp] theorem utf8_encode (bytes : Bytes) : Utf8.encode (encode bytes) = digits bytes :=
  Utf8.encode_ofList fun _ => toNat_lt_of_mem_digits

/-! ## Lengths -/

theorem length_le_of_decodePairs {text bytes : Bytes} {position : Nat}
    (h : decodePairs text position = .ok bytes) : bytes.length ≤ text.length := by
  fun_induction decodePairs text position generalizing bytes with
  | case1 high low rest position ih =>
    obtain ⟨_, -, h⟩ := bind_eq_ok_iff.1 h
    obtain ⟨_, -, h⟩ := bind_eq_ok_iff.1 h
    obtain ⟨tail, htail, h⟩ := bind_eq_ok_iff.1 h
    cases h
    exact Nat.succ_le_succ (Nat.le_succ_of_le (ih htail))
  | case2 =>
    cases h
    exact Nat.zero_le _

theorem length_le_of_decode {text bytes : Bytes} (h : decode text = .ok bytes) :
    bytes.length ≤ text.length := by
  rw [decode] at h
  split at h
  · cases h
  · exact length_le_of_decodePairs h

theorem length_le_of_parse {text bytes : Bytes} (h : parse text = .ok bytes) :
    bytes.length ≤ text.length := by
  unfold parse at h
  split at h
  · exact Nat.le_succ_of_le (Nat.le_succ_of_le (length_le_of_decode h))
  · exact length_le_of_decode h

end EnclaveRegistry.Hex
