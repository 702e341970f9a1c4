import EnclaveRegistry.Json.Text
import EnclaveRegistry.Proofs.Text.Hex
import EnclaveRegistry.Proofs.Text.Utf8

/-! # Written strings are read back

A string is read back unit by unit from the way it is written, up to its closing quote, and its
content is the text that it was written for.
-/
namespace EnclaveRegistry.Json

theorem unit?_digits {value : Nat} (h : value < 65536) :
    unit? (Hex.digit (value / 4096 % 16)) (Hex.digit (value / 256 % 16))
      (Hex.digit (value / 16 % 16)) (Hex.digit (value % 16)) = some value := by
  have hvalue : ((value / 4096 % 16 * 16 + value / 256 % 16) * 16 + value / 16 % 16) * 16 +
      value % 16 = value := by omega
  rw [unit?, Hex.digitValue?_digit _ (by omega), Hex.digitValue?_digit _ (by omega),
    Hex.digitValue?_digit _ (by omega), Hex.digitValue?_digit _ (by omega)]
  exact congrArg some hvalue

namespace RawText

/-! ## Reading units -/

theorem read_plain {octet : UInt8} (hquote : octet ≠ 34) (hescape : octet ≠ 92)
    (hcontrol : ¬ octet.toNat < 32) (rest : Bytes) :
    read (octet :: rest) = ((read rest).1.cons (.plain octet), (read rest).2) := by
  rw [read.eq_def]
  simp only [if_neg hquote, if_neg hescape, if_neg hcontrol]

theorem read_short {letter octet : UInt8} (hletter : letter ≠ 117)
    (h : shortEscape? letter = some octet) (rest : Bytes) :
    read (92 :: letter :: rest) = ((read rest).1.cons (.short octet), (read rest).2) := by
  have hquote : ¬ (92 : UInt8) = 34 := by decide
  rw [read.eq_def]
  simp only [if_neg hquote, if_pos, if_neg hletter, h]

theorem read_unit {a b c d : UInt8} {value : Nat} (h : unit? a b c d = some value)
    (rest : Bytes) :
    read (92 :: 117 :: a :: b :: c :: d :: rest) =
      ((read rest).1.cons (.unit value), (read rest).2) := by
  have hquote : ¬ (92 : UInt8) = 34 := by decide
  rw [read.eq_def]
  simp only [if_neg hquote, if_pos, h]

theorem read_pieceText_append (octet : UInt8) (rest : Bytes) :
    read (pieceText (pieceOf octet) ++ rest) =
      ((read rest).1.cons (pieceOf octet), (read rest).2) := by
  by_cases hshort : octet = 34 ∨ octet = 92 ∨ octet = 8 ∨ octet = 9 ∨ octet = 10 ∨ octet = 12 ∨
      octet = 13
  · have hletter : escapeLetter octet ≠ 117 ∧ shortEscape? (escapeLetter octet) = some octet := by
      rcases hshort with rfl | rfl | rfl | rfl | rfl | rfl | rfl <;> decide
    rw [pieceOf, if_pos hshort]
    exact read_short hletter.1 hletter.2 rest
  by_cases hcontrol : octet.toNat < 32
  · rw [pieceOf, if_neg hshort, if_pos hcontrol]
    exact read_unit (unit?_digits (by omega)) rest
  · rw [pieceOf, if_neg hshort, if_neg hcontrol]
    exact read_plain (fun h => hshort (.inl h)) (fun h => hshort (.inr (.inl h))) hcontrol rest

theorem read_ofBytes (octets rest : Bytes) :
    read ((ofBytes octets).pieces.flatMap pieceText ++ [34] ++ rest) = (ofBytes octets, rest) := by
  induction octets with
  | nil =>
    change read (34 :: rest) = _
    rw [read.eq_def]
    rfl
  | cons octet octets ih =>
    change read ((pieceText (pieceOf octet) ++ (ofBytes octets).pieces.flatMap pieceText) ++
      [34] ++ rest) = _
    rw [List.append_assoc, List.append_assoc, read_pieceText_append, ← List.append_assoc, ih]
    rfl

/-! ## Contents -/

theorem octets_pieceOf (octet : UInt8) (rest : List Piece) (ending : Ending) :
    octets (pieceOf octet :: rest) ending = (octet :: ·) <$> octets rest ending := by
  by_cases hshort : octet = 34 ∨ octet = 92 ∨ octet = 8 ∨ octet = 9 ∨ octet = 10 ∨ octet = 12 ∨
      octet = 13
  · rw [pieceOf, if_pos hshort, octets]
  by_cases hcontrol : octet.toNat < 32
  · have htrailing : ¬ isTrailing octet.toNat = true := by simp [isTrailing]; omega
    have hleading : ¬ isLeading octet.toNat = true := by simp [isLeading]; omega
    have hoctet : Utf8.encodeChar (Char.ofNat octet.toNat) = [octet] :=
      Utf8.encodeChar_ofNat (by omega)
    rw [pieceOf, if_neg hshort, if_pos hcontrol, octets.eq_def]
    simp only [if_neg htrailing, if_neg hleading, hoctet]
    rfl
  · rw [pieceOf, if_neg hshort, if_neg hcontrol, octets]

theorem octets_ofBytes (bytes : Bytes) :
    octets (ofBytes bytes).pieces (ofBytes bytes).ending = .ok bytes := by
  induction bytes with
  | nil => rfl
  | cons octet bytes ih =>
    change octets (pieceOf octet :: (ofBytes bytes).pieces) (ofBytes bytes).ending = _
    rw [octets_pieceOf, ih]
    rfl

@[simp] theorem content_ofString (text : String) : (ofString text).content = .ok text := by
  rw [content, ofString, octets_ofBytes]
  simp only [Utf8.decode?_encode]

/-- A string in which nothing is escaped is written as it is, between quotes. -/
theorem text_ofBytes {octets : Bytes} (h : ∀ octet ∈ octets, pieceOf octet = .plain octet) :
    (ofBytes octets).text = 34 :: octets ++ [34] := by
  have hpieces : (ofBytes octets).pieces.flatMap pieceText = octets := by
    induction octets with
    | nil => rfl
    | cons octet rest ih =>
      change pieceText (pieceOf octet) ++ (ofBytes rest).pieces.flatMap pieceText = _
      have hrest := ih fun other hother => h other (List.mem_cons_of_mem octet hother)
      rw [h octet List.mem_cons_self, hrest]
      rfl
  rw [text, hpieces]

end RawText
end EnclaveRegistry.Json
