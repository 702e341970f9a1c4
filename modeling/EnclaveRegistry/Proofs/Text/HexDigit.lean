import EnclaveRegistry.Proofs.Text.Hex

/-! # Which texts are hexadecimal

A text is read if an even number of digits is left of it behind at most one marker. Its digits in
lowercase are those that its octets are written with, and written octets are in the order of the
octets, however many there are.
-/
namespace EnclaveRegistry.Hex

open Result (bind_eq_ok_iff)

/-! ## Digits -/

def readable : List Char := "0123456789abcdefABCDEF".toList

theorem lower_of_digitValue? {octet : UInt8} {value : Nat} (h : digitValue? octet = some value) :
    value < 16 ∧ octet.toNat < 128 ∧ Char.ofNat octet.toNat ∈ readable ∧
      Char.ofNat (digit value).toNat = (Char.ofNat octet.toNat).toLower := by
  have hall : ∀ n < 256, ∀ value ∈ digitValue? (UInt8.ofNat n),
      value < 16 ∧ n < 128 ∧ Char.ofNat n ∈ readable ∧
        Char.ofNat (digit value).toNat = (Char.ofNat n).toLower := by
    decide +kernel
  refine hall octet.toNat octet.toNat_lt value ?_
  rwa [UInt8.ofNat_toNat]

theorem toNat_lt_of_isSome_digitValue? {text : Bytes}
    (h : ∀ octet ∈ text, (digitValue? octet).isSome) : ∀ octet ∈ text, octet.toNat < 128 := by
  intro octet hoctet
  obtain ⟨value, hvalue⟩ := Option.isSome_iff_exists.1 (h octet hoctet)
  exact (lower_of_digitValue? hvalue).2.1

theorem isSome_digitValue?_of_mem_encodeChar {c : Char} (h : c ∈ readable) {octet : UInt8}
    (hoctet : octet ∈ Utf8.encodeChar c) : (digitValue? octet).isSome := by
  have hall : (readable.all fun c => (Utf8.encodeChar c).all fun octet =>
      (digitValue? octet).isSome) = true := by decide +kernel
  exact List.all_eq_true.1 (List.all_eq_true.1 hall c h) octet hoctet

theorem digitAt_eq_ok_iff {octet : UInt8} {position value : Nat} :
    digitAt octet position = .ok value ↔ digitValue? octet = some value := by
  rw [digitAt]
  cases digitValue? octet <;> simp

/-- Octets are written with the digits that they were read from, in lowercase. -/
theorem lower_of_decodePairs {text bytes : Bytes} {position : Nat} (heven : text.length % 2 = 0)
    (h : decodePairs text position = .ok bytes) :
    (∀ octet ∈ text, (digitValue? octet).isSome) ∧
      (digits bytes).map (fun octet => Char.ofNat octet.toNat) =
        text.map fun octet => (Char.ofNat octet.toNat).toLower := by
  fun_induction decodePairs text position generalizing bytes with
  | case1 high low rest position ih =>
    obtain ⟨x, hhigh, h⟩ := bind_eq_ok_iff.1 h
    obtain ⟨y, hlow, h⟩ := bind_eq_ok_iff.1 h
    obtain ⟨tail, htail, h⟩ := bind_eq_ok_iff.1 h
    cases h
    rw [digitAt_eq_ok_iff] at hhigh hlow
    obtain ⟨hx, -, -, hhighLower⟩ := lower_of_digitValue? hhigh
    obtain ⟨hy, -, -, hlowLower⟩ := lower_of_digitValue? hlow
    have hlength : rest.length % 2 = 0 := by
      simp only [List.length_cons] at heven
      omega
    obtain ⟨hdigits, htext⟩ := ih hlength htail
    have hoctet : (UInt8.ofNat (16 * x + y)).toNat = 16 * x + y :=
      UInt8.toNat_ofNat_of_lt' (show 16 * x + y < 256 by omega)
    have hupper : (16 * x + y) / 16 = x := by omega
    have hlower : (16 * x + y) % 16 = y := by omega
    refine ⟨by simpa [hhigh, hlow] using hdigits, ?_⟩
    change [Char.ofNat (digit _).toNat, Char.ofNat (digit _).toNat] ++
      (digits tail).map _ = _
    rw [hoctet, hupper, hlower, hhighLower, hlowLower, htext]
    rfl
  | case2 text position hpair =>
    cases h
    -- an even number of digits without a pair in front is none at all
    have hnil : text = [] := by
      cases text with
      | nil => rfl
      | cons high rest =>
        cases rest with
        | nil => cases heven
        | cons low rest => exact absurd rfl (hpair high low rest)
    subst hnil
    exact ⟨List.forall_mem_nil _, rfl⟩

theorem exists_decodePairs {text : Bytes} (position : Nat)
    (h : ∀ octet ∈ text, (digitValue? octet).isSome) :
    ∃ bytes, decodePairs text position = .ok bytes := by
  fun_induction decodePairs text position with
  | case1 high low rest position ih =>
    simp only [List.forall_mem_cons, Option.isSome_iff_exists] at h
    obtain ⟨⟨x, hhigh⟩, ⟨y, hlow⟩, hrest⟩ := h
    obtain ⟨tail, htail⟩ := ih fun octet hoctet => Option.isSome_iff_exists.2 (hrest octet hoctet)
    rw [digitAt_eq_ok_iff.2 hhigh, digitAt_eq_ok_iff.2 hlow, htail]
    exact ⟨_, rfl⟩
  | case2 text position hpair => exact ⟨[], rfl⟩

theorem exists_decode_iff {text : Bytes} : (∃ bytes, decode text = .ok bytes) ↔
    text.length % 2 = 0 ∧ ∀ octet ∈ text, (digitValue? octet).isSome := by
  rw [decode]
  by_cases hodd : text.length % 2 = 1
  · simp [hodd]
  · have heven : text.length % 2 = 0 := by omega
    rw [if_neg hodd]
    constructor
    · rintro ⟨bytes, h⟩
      exact ⟨heven, (lower_of_decodePairs heven h).1⟩
    · rintro ⟨-, h⟩
      exact exists_decodePairs 0 h

theorem lower_of_decode {text bytes : Bytes} (h : decode text = .ok bytes) :
    (∀ octet ∈ text, (digitValue? octet).isSome) ∧
      (digits bytes).map (fun octet => Char.ofNat octet.toNat) =
        text.map fun octet => (Char.ofNat octet.toNat).toLower := by
  have heven := (exists_decode_iff.1 ⟨bytes, h⟩).1
  rw [decode, if_neg (by omega)] at h
  exact lower_of_decodePairs heven h

/-! ## Characters -/

/-- A text less one marker in front. -/
def withoutMarker (text : String) : String :=
  if "0x".toList <+: text.toList then String.ofList (text.toList.drop 2) else text

theorem encode_eq_marker_iff {text : String} {rest : Bytes} :
    Utf8.encode text = 48 :: 120 :: rest ↔
      ∃ tail, text.toList = '0' :: 'x' :: tail ∧ rest = tail.flatMap Utf8.encodeChar := by
  constructor
  · intro h
    have hchars := Utf8.decodeChars?_flatMap_encodeChar text.toList
    change Utf8.decodeChars? (Utf8.encode text) = _ at hchars
    rw [h, Utf8.decodeChars?_one _ (by decide), Utf8.decodeChars?_one _ (by decide)] at hchars
    obtain ⟨front, hfront, htext⟩ := Option.map_eq_some_iff.1 hchars
    obtain ⟨tail, htail, rfl⟩ := Option.map_eq_some_iff.1 hfront
    exact ⟨tail, htext.symm, (Utf8.flatMap_encodeChar_of_decodeChars? htail).symm⟩
  · rintro ⟨tail, htext, rfl⟩
    rw [Utf8.encode, htext]
    rfl

theorem parse_encode (text : String) :
    parse (Utf8.encode text) = decode (Utf8.encode (withoutMarker text)) := by
  by_cases hmarker : "0x".toList <+: text.toList
  · obtain ⟨tail, htail⟩ := hmarker
    have htext : text.toList = '0' :: 'x' :: tail := htail.symm
    have hrest : withoutMarker text = String.ofList tail := by
      rw [withoutMarker, if_pos ⟨tail, htail⟩, htext]
      rfl
    rw [encode_eq_marker_iff.2 ⟨tail, htext, rfl⟩, hrest, Utf8.encode, String.toList_ofList]
    rfl
  · have hnone : ∀ rest, Utf8.encode text ≠ 48 :: 120 :: rest := by
      intro rest h
      obtain ⟨tail, htext, -⟩ := encode_eq_marker_iff.1 h
      exact hmarker ⟨tail, htext.symm⟩
    rw [withoutMarker, if_neg hmarker, parse.eq_def]
    split
    · rename_i rest h
      exact absurd h (hnone rest)
    · rfl

theorem isSome_digitValue?_iff {text : String} :
    (∀ octet ∈ Utf8.encode text, (digitValue? octet).isSome) ↔
      ∀ c ∈ text.toList, c ∈ readable := by
  constructor
  · intro h c hc
    rw [Utf8.toList_eq_of_forall_lt (toNat_lt_of_isSome_digitValue? h)] at hc
    obtain ⟨octet, hoctet, rfl⟩ := List.mem_map.1 hc
    obtain ⟨value, hvalue⟩ := Option.isSome_iff_exists.1 (h octet hoctet)
    exact (lower_of_digitValue? hvalue).2.2.1
  · intro h octet hoctet
    obtain ⟨c, hc, hoctet⟩ := List.mem_flatMap.1 hoctet
    exact isSome_digitValue?_of_mem_encodeChar (h c hc) hoctet

theorem exists_parse_iff {text : String} : (∃ bytes, parse (Utf8.encode text) = .ok bytes) ↔
    (Utf8.encode (withoutMarker text)).length % 2 = 0 ∧
      ∀ c ∈ (withoutMarker text).toList, c ∈ readable := by
  rw [parse_encode, exists_decode_iff, isSome_digitValue?_iff]

theorem encode_of_parse {text : String} {bytes : Bytes}
    (h : parse (Utf8.encode text) = .ok bytes) : encode bytes = (withoutMarker text).toLower := by
  rw [parse_encode] at h
  obtain ⟨hdigits, hlower⟩ := lower_of_decode h
  have htext := Utf8.toList_eq_of_forall_lt (toNat_lt_of_isSome_digitValue? hdigits)
  have hlowered : (withoutMarker text).toLower.toList =
      (withoutMarker text).toList.map Char.toLower := String.toList_map
  rw [← String.toList_inj, encode, String.toList_ofList, hlower, hlowered, htext, List.map_map]
  rfl

/-! ## Order -/

/-- What is written with two digits for each octet is in the order of the octets. -/
theorem flatMap_halves_lt_iff {β : Type} [LT β] {written : Nat → β}
    (hlt : ∀ m < 16, ∀ n < 16, (written m < written n ↔ m < n))
    (hinj : ∀ m < 16, ∀ n < 16, (written m = written n ↔ m = n)) (a b : Bytes) :
    (a.flatMap fun octet => [written (octet.toNat / 16), written (octet.toNat % 16)]) <
      (b.flatMap fun octet => [written (octet.toNat / 16), written (octet.toNat % 16)]) ↔
        a < b := by
  induction a generalizing b with
  | nil =>
    cases b with
    | nil => simp
    | cons y b => simp
  | cons x a ih =>
    cases b with
    | nil => simp
    | cons y b =>
      -- Octets are ordered as their halves are, the higher one first.
      have hx := x.toNat_lt
      have hy := y.toNat_lt
      have hhigh : x.toNat / 16 < 16 ∧ y.toNat / 16 < 16 := by omega
      have hlow : x.toNat % 16 < 16 ∧ y.toNat % 16 < 16 := by omega
      simp only [List.flatMap_cons, List.cons_append, List.nil_append, List.cons_lt_cons_iff, ih,
        hlt _ hhigh.1 _ hhigh.2, hlt _ hlow.1 _ hlow.2, hinj _ hhigh.1 _ hhigh.2,
        hinj _ hlow.1 _ hlow.2, UInt8.lt_iff_toNat_lt, ← UInt8.toNat_inj]
      constructor
      · rintro (h | ⟨h, h' | ⟨h', hrest⟩⟩)
        · exact .inl (by omega)
        · exact .inl (by omega)
        · exact .inr ⟨by omega, hrest⟩
      · rintro (h | ⟨h, hrest⟩)
        · omega
        · exact .inr ⟨by omega, .inr ⟨by omega, hrest⟩⟩

theorem digits_lt_iff {a b : Bytes} : digits a < digits b ↔ a < b :=
  flatMap_halves_lt_iff (by decide) (by decide) a b

theorem encode_lt_iff {a b : Bytes} : encode a < encode b ↔ a < b := by
  have hlt : ∀ m < 16, ∀ n < 16,
      (Char.ofNat (digit m).toNat < Char.ofNat (digit n).toNat ↔ m < n) := by decide
  have hinj : ∀ m < 16, ∀ n < 16,
      (Char.ofNat (digit m).toNat = Char.ofNat (digit n).toNat ↔ m = n) := by decide
  rw [String.lt_iff, encode, encode, String.toList_ofList, String.toList_ofList, digits, digits,
    List.map_flatMap, List.map_flatMap]
  exact flatMap_halves_lt_iff hlt hinj a b

end EnclaveRegistry.Hex
