import EnclaveRegistry.Json.Numeral
import EnclaveRegistry.Json.Text

/-! # Tokens of JSON texts

A text is cut into tokens from the front, blanks between them dropped. Cutting stops behind a
token that no JSON text can continue; every byte string has a token sequence.
-/
namespace EnclaveRegistry.Json

/-- A token. A broken literal starts like `null`, `true` or `false` and departs from it, or is cut
off by the end of the text; a stray octet starts no token. -/
inductive Token where
  | openList
  | closeList
  | openObject
  | closeObject
  | comma
  | colon
  | null
  | bool (value : Bool)
  | numeral (numeral : Numeral)
  | text (raw : RawText)
  | brokenLiteral (atEnd : Bool)
  | stray
  deriving DecidableEq, Inhabited

def isBlank (octet : UInt8) : Bool :=
  octet == 32 || octet == 10 || octet == 9 || octet == 13

namespace Token

def readLiteral (token : Token) : (letters : Bytes) → Bytes → Token × Bytes
  | [], rest => (token, rest)
  | _ :: _, [] => (.brokenLiteral true, [])
  | letter :: letters, b :: rest =>
    if b = letter then readLiteral token letters rest else (.brokenLiteral false, rest)

def read (b : UInt8) (rest : Bytes) : Token × Bytes :=
  match b.toNat with
  | 91 => (.openList, rest)
  | 93 => (.closeList, rest)
  | 123 => (.openObject, rest)
  | 125 => (.closeObject, rest)
  | 44 => (.comma, rest)
  | 58 => (.colon, rest)
  | 110 => readLiteral .null [117, 108, 108] rest
  | 116 => readLiteral (.bool true) [114, 117, 101] rest
  | 102 => readLiteral (.bool false) [97, 108, 115, 101] rest
  | 34 =>
    let (raw, rest) := RawText.read rest
    (.text raw, rest)
  | 45 =>
    let (n, rest) := Numeral.readUnsigned true rest
    (.numeral n, rest)
  | _ =>
    if Decimal.isDigit b then
      let (n, rest) := Numeral.readUnsigned false (b :: rest)
      (.numeral n, rest)
    else (.stray, rest)

def isLast : Token → Bool
  | numeral n => n.defect.isSome
  | text raw => raw.ending != .closed
  | brokenLiteral _ => true
  | stray => true
  | _ => false

theorem length_readLiteral_le (token : Token) (letters rest : Bytes) :
    (readLiteral token letters rest).2.length ≤ rest.length := by
  fun_induction readLiteral token letters rest with
  | case1 => simp
  | case2 => simp
  | case3 letter letters rest ih => simp; omega
  | case4 => simp

end Token

theorem RawText.length_read_le (text : Bytes) : (RawText.read text).2.length ≤ text.length := by
  fun_induction RawText.read text <;> simp_all <;> omega

namespace Numeral

theorem length_takeDigits_le (text : Bytes) : (takeDigits text).2.length ≤ text.length :=
  (List.dropWhile_sublist _).length_le

theorem length_takeDigits_lt {text : Bytes} (h : (takeDigits text).1 ≠ []) :
    (takeDigits text).2.length < text.length := by
  have happend := congrArg List.length (List.takeWhile_append_dropWhile (p := Decimal.isDigit)
    (l := text))
  have hpos := List.length_pos_iff.2 h
  simp only [takeDigits, List.length_append] at *
  omega

theorem length_takeSign_le (text : Bytes) : (takeSign text).2.length ≤ text.length := by
  fun_cases takeSign text <;> simp

theorem length_readExponent_le (numeral : Numeral) (text : Bytes) :
    (readExponent numeral text).2.length ≤ text.length := by
  unfold readExponent
  split
  · split
    · exact Nat.le_trans (length_takeDigits_le _)
        (Nat.le_trans (length_takeSign_le _) (by simp))
    · simp
  · simp

theorem length_readFraction_le (numeral : Numeral) (text : Bytes) :
    (readFraction numeral text).2.length ≤ text.length := by
  unfold readFraction
  split
  · rename_i rest
    have h : (takeDigits rest).2.length ≤ (46 :: rest).length :=
      Nat.le_trans (length_takeDigits_le rest) (by simp)
    simp only []
    split
    · exact h
    · exact Nat.le_trans (length_readExponent_le _ _) h
  · exact length_readExponent_le numeral _

theorem length_readUnsigned_le (negative : Bool) (text : Bytes) :
    (readUnsigned negative text).2.length ≤ text.length := by
  unfold readUnsigned
  split
  · rename_i rest
    split
    · split
      · simp
      · exact Nat.le_trans (length_readFraction_le _ _) (by simp)
    · simp
  · simp only []
    split
    · exact length_takeDigits_le text
    · exact Nat.le_trans (length_readFraction_le _ _) (length_takeDigits_le text)

theorem length_readUnsigned_lt (negative : Bool) (d : UInt8) (rest : Bytes)
    (h : Decimal.isDigit d = true) :
    (readUnsigned negative (d :: rest)).2.length < (d :: rest).length := by
  unfold readUnsigned
  split
  · rename_i rest' heq
    obtain ⟨-, rfl⟩ := List.cons.inj heq
    split
    · split
      · simp
      · exact Nat.lt_of_le_of_lt (length_readFraction_le _ _) (by simp)
    · simp
  · have hne : (takeDigits (d :: rest)).1 ≠ [] := by simp [takeDigits, h]
    simp only []
    split
    · exact length_takeDigits_lt hne
    · exact Nat.lt_of_le_of_lt (length_readFraction_le _ _) (length_takeDigits_lt hne)

end Numeral

theorem Token.length_read_le (b : UInt8) (rest : Bytes) :
    (Token.read b rest).2.length ≤ rest.length := by
  unfold Token.read
  split <;> try exact Nat.le_refl _
  · exact length_readLiteral_le _ _ _
  · exact length_readLiteral_le _ _ _
  · exact length_readLiteral_le _ _ _
  · exact RawText.length_read_le rest
  · exact Numeral.length_readUnsigned_le true rest
  · split
    · rename_i h
      exact Nat.le_of_lt_succ (Numeral.length_readUnsigned_lt false b rest h)
    · exact Nat.le_refl _

/-- The tokens of a text, up to and including the first that no JSON text can continue. -/
def tokens : Bytes → List Token
  | [] => []
  | b :: rest =>
    if isBlank b then tokens rest
    else
      let read := Token.read b rest
      if read.1.isLast then [read.1] else read.1 :: tokens read.2
termination_by text => text.length
decreasing_by
  · exact Nat.lt_succ_self rest.length
  · exact Nat.lt_succ_of_le (Token.length_read_le b rest)

end EnclaveRegistry.Json
