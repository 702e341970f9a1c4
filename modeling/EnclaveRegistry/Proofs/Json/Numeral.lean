import EnclaveRegistry.Json.Numeral

/-! # Natural numbers are read back

The digits of a natural number start with no needless zero, so a numeral takes all of them, and
below the limit of exact numbers its value is the number again.
-/
namespace EnclaveRegistry

namespace Decimal

theorem isDigit_digit : ∀ value < 10, isDigit (digit value) = true := by
  decide

theorem digitValue_digit : ∀ value < 10, digitValue (digit value) = value := by
  decide

theorem isDigit_of_mem_ofNat {value : Nat} {octet : UInt8} (h : octet ∈ ofNat value) :
    isDigit octet = true := by
  fun_induction ofNat value with
  | case1 value hlt =>
    obtain rfl := List.mem_singleton.1 h
    exact isDigit_digit value hlt
  | case2 value hlt hdiv ih =>
    rcases List.mem_append.1 h with h | h
    · exact ih h
    · obtain rfl := List.mem_singleton.1 h
      exact isDigit_digit _ (by omega)

theorem ofNat_ne_nil (value : Nat) : ofNat value ≠ [] := by
  rw [ofNat]
  split <;> simp

theorem toNat_append (digits : Bytes) (last : UInt8) :
    toNat (digits ++ [last]) = toNat digits * 10 + digitValue last := by
  rw [toNat, toNat, List.foldl_append]
  rfl

@[simp] theorem toNat_ofNat (value : Nat) : toNat (ofNat value) = value := by
  fun_induction ofNat value with
  | case1 value hlt =>
    change 0 * 10 + digitValue (digit value) = value
    rw [digitValue_digit value hlt]
    omega
  | case2 value hlt hdiv ih =>
    rw [toNat_append, ih, digitValue_digit _ (by omega)]
    omega

theorem exists_ofNat_eq_cons {value : Nat} (h : 0 < value) :
    ∃ first rest, ofNat value = first :: rest ∧ first ≠ 48 := by
  fun_induction ofNat value with
  | case1 value hlt =>
    have hdigit : ∀ value < 10, 0 < value → digit value ≠ 48 := by decide
    exact ⟨digit value, [], rfl, hdigit value hlt h⟩
  | case2 value hlt hdiv ih =>
    obtain ⟨first, rest, heq, hne⟩ := ih (by omega)
    exact ⟨first, rest ++ [digit (value % 10)], by rw [heq, List.cons_append], hne⟩

end Decimal

namespace Json.Numeral

/-- Whether a text does not go on with the numeral before it. -/
def Stops (rest : Bytes) : Prop :=
  ∀ octet ∈ rest.head?, Decimal.isDigit octet = false ∧ octet ≠ 46 ∧ octet ≠ 101 ∧ octet ≠ 69

/-! ## Reading -/

theorem takeDigits_append {digits rest : Bytes}
    (hdigits : ∀ octet ∈ digits, Decimal.isDigit octet = true) (hrest : Stops rest) :
    takeDigits (digits ++ rest) = (digits, rest) := by
  have htake : rest.takeWhile Decimal.isDigit = [] ∧ rest.dropWhile Decimal.isDigit = rest := by
    cases rest with
    | nil => exact ⟨rfl, rfl⟩
    | cons octet rest =>
      have hoctet := (hrest octet rfl).1
      simp [hoctet]
  rw [takeDigits, List.takeWhile_append_of_pos hdigits, List.dropWhile_append_of_pos hdigits,
    htake.1, htake.2, List.append_nil]

theorem readExponent_of_stops (numeral : Numeral) {rest : Bytes} (h : Stops rest) :
    readExponent numeral rest = (numeral, rest) := by
  cases rest with
  | nil => rfl
  | cons octet rest =>
    obtain ⟨-, -, hlower, hupper⟩ := h octet rfl
    simp [readExponent, hlower, hupper]

theorem readFraction_of_stops (numeral : Numeral) {rest : Bytes} (h : Stops rest) :
    readFraction numeral rest = (numeral, rest) := by
  rw [← readExponent_of_stops numeral h, readFraction.eq_def]
  split
  · exact absurd rfl (h 46 rfl).2.1
  · rw [readExponent_of_stops numeral h]

/-- The numeral of a natural number is read up to its last digit. -/
theorem readUnsigned_ofNat (value : Nat) {rest : Bytes} (h : Stops rest) :
    readUnsigned false (Decimal.ofNat value ++ rest) = (ofNat value, rest) := by
  rcases Nat.eq_zero_or_pos value with rfl | hpos
  · have hzero : Decimal.ofNat 0 = [48] := by rw [Decimal.ofNat, dif_pos (by decide)]; rfl
    rw [ofNat, hzero]
    cases rest with
    | nil => rfl
    | cons octet rest =>
      have hoctet := (h octet rfl).1
      rw [List.singleton_append, readUnsigned]
      simp only [hoctet, Bool.false_eq_true, if_false]
      exact readFraction_of_stops _ h
  · have hdigits : ∀ octet ∈ Decimal.ofNat value, Decimal.isDigit octet = true :=
      fun octet => Decimal.isDigit_of_mem_ofNat
    obtain ⟨first, tail, heq, hne⟩ := Decimal.exists_ofNat_eq_cons hpos
    rw [readUnsigned.eq_def]
    split
    · rename_i hzero
      rw [heq] at hzero
      exact absurd (List.cons.inj hzero).1 hne
    · have hdigit : ¬ (Decimal.ofNat value).isEmpty = true := by simp [heq]
      simp only [takeDigits_append hdigits h, if_neg hdigit]
      exact readFraction_of_stops _ h

/-! ## Values -/

theorem le_foldl (digits : Bytes) (significand : Nat) :
    significand ≤ digits.foldl (fun value d => value * 10 + Decimal.digitValue d) significand := by
  induction digits generalizing significand with
  | nil => exact Nat.le_refl significand
  | cons d rest ih => exact Nat.le_trans (by omega) (ih (significand * 10 + Decimal.digitValue d))

theorem accumulate_eq {digits : Bytes} {significand : Nat}
    (h : digits.foldl (fun value d => value * 10 + Decimal.digitValue d) significand < limit) :
    accumulate significand digits =
      (digits.foldl (fun value d => value * 10 + Decimal.digitValue d) significand,
        digits.length) := by
  induction digits generalizing significand with
  | nil => rfl
  | cons d rest ih =>
    have hnext : significand * 10 + Decimal.digitValue d < limit :=
      Nat.lt_of_le_of_lt (le_foldl rest _) h
    rw [accumulate]
    simp only [if_pos hnext, ih h]
    rfl

theorem number_ofNat {value : Nat} (h : value < limit) :
    (ofNat value).number = .ok (.natural value) := by
  have hvalue : accumulate 0 (Decimal.ofNat value) = (value, (Decimal.ofNat value).length) := by
    have hdigits : (Decimal.ofNat value).foldl
        (fun value d => value * 10 + Decimal.digitValue d) 0 = value := Decimal.toNat_ofNat value
    rw [accumulate_eq (by rw [hdigits]; exact h), hdigits]
  have hnatural : (ofNat value).value? = some (.natural value) := by
    rw [value?]
    simp [ofNat, hvalue]
  rw [number, hnatural]
  rfl

end Json.Numeral
end EnclaveRegistry
