import EnclaveRegistry.Text.Utf8

/-! # The octets of a text are read back

Each character is written in the shortest form that fits it, and a reader of that form takes
exactly its octets. Nothing but that form is read, so a text has no second form.
-/
namespace EnclaveRegistry.Utf8

theorem continuation?_ofNat (n : Nat) :
    continuation? (UInt8.ofNat (0x80 + n % 64)) = some (n % 64) := by
  have hvalue : (UInt8.ofNat (0x80 + n % 64)).toNat = 0x80 + n % 64 := by
    rw [UInt8.toNat_ofNat']
    omega
  have hrange : 0x80 ≤ 0x80 + n % 64 ∧ 0x80 + n % 64 < 0xC0 := by omega
  rw [continuation?, hvalue, if_pos hrange, Nat.add_sub_cancel_left]

theorem scalar?_toNat (c : Char) {least : Nat} (h : least ≤ c.toNat) :
    scalar? least c.toNat = some c := by
  have hvalid : c.toNat.isValidChar := c.valid
  have hchar := Char.ofNat_toNat c
  unfold Char.ofNat at hchar
  rw [dif_pos hvalid] at hchar
  rw [scalar?, dif_pos hvalid, if_pos h, hchar]

/-! ## One character of each length -/

theorem decodeChars?_one {a : UInt8} (rest : Bytes) (ha : a.toNat < 0x80) :
    decodeChars? (a :: rest) = (Char.ofNat a.toNat :: ·) <$> decodeChars? rest := by
  rw [decodeChars?.eq_def]
  simp only [if_pos ha]

theorem decodeChars?_two {a b : UInt8} {c : Char} (rest : Bytes) (ha : 0x80 ≤ a.toNat)
    (ha' : a.toNat < 0xE0) (h : two? a b = some c) :
    decodeChars? (a :: b :: rest) = (c :: ·) <$> decodeChars? rest := by
  rw [decodeChars?.eq_def]
  simp only [if_neg (Nat.not_lt.2 ha), if_pos ha', h]
  cases decodeChars? rest <;> rfl

theorem decodeChars?_three {a b c : UInt8} {d : Char} (rest : Bytes) (ha : 0xE0 ≤ a.toNat)
    (ha' : a.toNat < 0xF0) (h : three? a b c = some d) :
    decodeChars? (a :: b :: c :: rest) = (d :: ·) <$> decodeChars? rest := by
  have hone : ¬ a.toNat < 0x80 := by omega
  rw [decodeChars?.eq_def]
  simp only [if_neg hone, if_neg (Nat.not_lt.2 ha), if_pos ha', h]
  cases decodeChars? rest <;> rfl

theorem decodeChars?_four {a b c d : UInt8} {e : Char} (rest : Bytes) (ha : 0xF0 ≤ a.toNat)
    (h : four? a b c d = some e) :
    decodeChars? (a :: b :: c :: d :: rest) = (e :: ·) <$> decodeChars? rest := by
  have hone : ¬ a.toNat < 0x80 := by omega
  have htwo : ¬ a.toNat < 0xE0 := by omega
  rw [decodeChars?.eq_def]
  simp only [if_neg hone, if_neg htwo, if_neg (Nat.not_lt.2 ha), h]
  cases decodeChars? rest <;> rfl

theorem toNat_ofNat_lead {n : Nat} (h : n < 256) : (UInt8.ofNat n).toNat = n := by
  rw [UInt8.toNat_ofNat']
  omega

theorem two?_encode {c : Char} (hlow : 0x80 ≤ c.toNat) (hhigh : c.toNat < 0x800) :
    two? (UInt8.ofNat (0xC0 + c.toNat / 64)) (UInt8.ofNat (0x80 + c.toNat % 64)) = some c := by
  have hrange : 0xC0 ≤ 0xC0 + c.toNat / 64 ∧ 0xC0 + c.toNat / 64 < 0xE0 := by omega
  have hvalue : (0xC0 + c.toNat / 64 - 0xC0) * 64 + c.toNat % 64 = c.toNat := by omega
  rw [two?, continuation?_ofNat, toNat_ofNat_lead (by omega), Option.bind_eq_bind,
    Option.bind_some, if_pos hrange, hvalue, scalar?_toNat c hlow]

theorem three?_encode {c : Char} (hlow : 0x800 ≤ c.toNat) (hhigh : c.toNat < 0x10000) :
    three? (UInt8.ofNat (0xE0 + c.toNat / 4096)) (UInt8.ofNat (0x80 + c.toNat / 64 % 64))
      (UInt8.ofNat (0x80 + c.toNat % 64)) = some c := by
  have hrange : 0xE0 ≤ 0xE0 + c.toNat / 4096 ∧ 0xE0 + c.toNat / 4096 < 0xF0 := by omega
  have hvalue : (0xE0 + c.toNat / 4096 - 0xE0) * 4096 + c.toNat / 64 % 64 * 64 + c.toNat % 64 =
      c.toNat := by omega
  rw [three?, continuation?_ofNat, continuation?_ofNat, toNat_ofNat_lead (by omega),
    Option.bind_eq_bind, Option.bind_some, Option.bind_some, if_pos hrange, hvalue,
    scalar?_toNat c hlow]

theorem four?_encode {c : Char} (hlow : 0x10000 ≤ c.toNat) (hhigh : c.toNat < 0x110000) :
    four? (UInt8.ofNat (0xF0 + c.toNat / 262144)) (UInt8.ofNat (0x80 + c.toNat / 4096 % 64))
      (UInt8.ofNat (0x80 + c.toNat / 64 % 64)) (UInt8.ofNat (0x80 + c.toNat % 64)) = some c := by
  have hrange : 0xF0 ≤ 0xF0 + c.toNat / 262144 ∧ 0xF0 + c.toNat / 262144 < 0xF8 := by omega
  have hvalue : (0xF0 + c.toNat / 262144 - 0xF0) * 262144 + c.toNat / 4096 % 64 * 4096 +
      c.toNat / 64 % 64 * 64 + c.toNat % 64 = c.toNat := by omega
  rw [four?, continuation?_ofNat, continuation?_ofNat, continuation?_ofNat,
    toNat_ofNat_lead (by omega), Option.bind_eq_bind, Option.bind_some, Option.bind_some,
    Option.bind_some, if_pos hrange, hvalue, scalar?_toNat c hlow]

theorem decodeChars?_encodeChar_append (c : Char) (rest : Bytes) :
    decodeChars? (encodeChar c ++ rest) = (c :: ·) <$> decodeChars? rest := by
  have hlimit : c.toNat < 0x110000 := by
    have hvalid : c.toNat.isValidChar := c.valid
    unfold Nat.isValidChar at hvalid
    omega
  unfold encodeChar
  by_cases hone : c.toNat < 0x80
  · have ha := toNat_ofNat_lead (n := c.toNat) (by omega)
    simp only [if_pos hone, List.singleton_append]
    rw [decodeChars?_one rest (by omega), ha, Char.ofNat_toNat]
  by_cases htwo : c.toNat < 0x800
  · have ha := toNat_ofNat_lead (n := 0xC0 + c.toNat / 64) (by omega)
    simp only [if_neg hone, if_pos htwo, List.cons_append, List.nil_append]
    exact decodeChars?_two rest (by omega) (by omega) (two?_encode (Nat.le_of_not_lt hone) htwo)
  by_cases hthree : c.toNat < 0x10000
  · have ha := toNat_ofNat_lead (n := 0xE0 + c.toNat / 4096) (by omega)
    simp only [if_neg hone, if_neg htwo, if_pos hthree, List.cons_append, List.nil_append]
    exact decodeChars?_three rest (by omega) (by omega)
      (three?_encode (Nat.le_of_not_lt htwo) hthree)
  · have ha := toNat_ofNat_lead (n := 0xF0 + c.toNat / 262144) (by omega)
    simp only [if_neg hone, if_neg htwo, if_neg hthree, List.cons_append, List.nil_append]
    exact decodeChars?_four rest (by omega) (four?_encode (Nat.le_of_not_lt hthree) hlimit)

theorem decodeChars?_flatMap_encodeChar (text : List Char) :
    decodeChars? (text.flatMap encodeChar) = some text := by
  induction text with
  | nil => rfl
  | cons c rest ih =>
    rw [List.flatMap_cons, decodeChars?_encodeChar_append, ih]
    rfl

@[simp] theorem decode?_encode (text : String) : decode? (encode text) = some text := by
  rw [decode?, encode, decodeChars?_flatMap_encodeChar]
  exact congrArg some String.ofList_toList

theorem encode_inj {a b : String} : encode a = encode b ↔ a = b := by
  refine ⟨fun h => ?_, congrArg encode⟩
  have hdecode := decode?_encode a
  rw [h, decode?_encode] at hdecode
  exact (Option.some.inj hdecode).symm

theorem length_encodeChar_le (c : Char) : (encodeChar c).length ≤ 4 := by
  simp only [encodeChar]
  split
  · simp
  split
  · simp
  split <;> simp

theorem encodeChar_ofNat {octet : UInt8} (h : octet.toNat < 0x80) :
    encodeChar (Char.ofNat octet.toNat) = [octet] := by
  have hvalid : octet.toNat.isValidChar := .inl (by omega)
  have hchar : (Char.ofNat octet.toNat).toNat = octet.toNat := by
    rw [Char.ofNat, dif_pos hvalid]
    rfl
  rw [encodeChar, hchar]
  simp only [if_pos h, UInt8.ofNat_toNat]

theorem encode_append (a b : String) : encode (a ++ b) = encode a ++ encode b := by
  simp [encode]

/-- Octets of the ASCII range are those of the text that has them as characters. -/
theorem encode_ofList {octets : Bytes} (h : ∀ octet ∈ octets, octet.toNat < 0x80) :
    encode (String.ofList (octets.map fun octet => Char.ofNat octet.toNat)) = octets := by
  rw [encode, String.toList_ofList]
  induction octets with
  | nil => rfl
  | cons octet rest ih =>
    have hhead := encodeChar_ofNat (h octet List.mem_cons_self)
    rw [List.map_cons, List.flatMap_cons, hhead,
      ih fun other hother => h other (List.mem_cons_of_mem octet hother)]
    rfl

theorem toList_eq_of_forall_lt {text : String}
    (h : ∀ octet ∈ encode text, octet.toNat < 0x80) :
    text.toList = (encode text).map fun octet => Char.ofNat octet.toNat := by
  have htext := encode_inj.1 (encode_ofList h)
  rw [← String.toList_inj, String.toList_ofList] at htext
  exact htext.symm

theorem exists_encode_eq {octets : Bytes} (h : ∀ octet ∈ octets, octet.toNat < 0x80) :
    ∃ text, encode text = octets :=
  ⟨_, encode_ofList h⟩

/-! ## Only the shortest forms are read -/

theorem eq_of_continuation? {octet : UInt8} {n : Nat} (h : continuation? octet = some n) :
    n < 64 ∧ octet.toNat = 0x80 + n := by
  unfold continuation? at h
  by_cases hrange : 0x80 ≤ octet.toNat ∧ octet.toNat < 0xC0
  · simp only [if_pos hrange, Option.some.injEq] at h
    omega
  · simp only [if_neg hrange] at h
    cases h

theorem eq_of_scalar? {least value : Nat} {c : Char} (h : scalar? least value = some c) :
    c.toNat = value ∧ least ≤ value := by
  unfold scalar? at h
  by_cases hvalid : value.isValidChar
  · rw [dif_pos hvalid] at h
    by_cases hleast : least ≤ value
    · rw [if_pos hleast] at h
      cases h
      exact ⟨rfl, hleast⟩
    · rw [if_neg hleast] at h
      cases h
  · rw [dif_neg hvalid] at h
    cases h

theorem ofNat_eq_of_toNat_eq {octet : UInt8} {n : Nat} (h : octet.toNat = n) :
    UInt8.ofNat n = octet := by
  rw [← h, UInt8.ofNat_toNat]

theorem encodeChar_of_two? {a b : UInt8} {c : Char} (h : two? a b = some c) :
    encodeChar c = [a, b] := by
  obtain ⟨x, hx, h⟩ := Option.bind_eq_some_iff.1 h
  obtain ⟨hx64, hb⟩ := eq_of_continuation? hx
  by_cases hrange : 0xC0 ≤ a.toNat ∧ a.toNat < 0xE0
  · rw [if_pos hrange] at h
    obtain ⟨hc, hleast⟩ := eq_of_scalar? h
    have hone : ¬ c.toNat < 0x80 := by omega
    have htwo : c.toNat < 0x800 := by omega
    have ha : a.toNat = 0xC0 + c.toNat / 64 := by omega
    have hb : b.toNat = 0x80 + c.toNat % 64 := by omega
    simp only [encodeChar, if_neg hone, if_pos htwo, ofNat_eq_of_toNat_eq ha,
      ofNat_eq_of_toNat_eq hb]
  · rw [if_neg hrange] at h
    cases h

theorem encodeChar_of_three? {a b c : UInt8} {d : Char} (h : three? a b c = some d) :
    encodeChar d = [a, b, c] := by
  obtain ⟨x, hx, h⟩ := Option.bind_eq_some_iff.1 h
  obtain ⟨y, hy, h⟩ := Option.bind_eq_some_iff.1 h
  obtain ⟨hx64, hb⟩ := eq_of_continuation? hx
  obtain ⟨hy64, hc⟩ := eq_of_continuation? hy
  by_cases hrange : 0xE0 ≤ a.toNat ∧ a.toNat < 0xF0
  · rw [if_pos hrange] at h
    obtain ⟨hd, hleast⟩ := eq_of_scalar? h
    have hone : ¬ d.toNat < 0x80 := by omega
    have htwo : ¬ d.toNat < 0x800 := by omega
    have hthree : d.toNat < 0x10000 := by omega
    have ha : a.toNat = 0xE0 + d.toNat / 4096 := by omega
    have hb : b.toNat = 0x80 + d.toNat / 64 % 64 := by omega
    have hc : c.toNat = 0x80 + d.toNat % 64 := by omega
    simp only [encodeChar, if_neg hone, if_neg htwo, if_pos hthree, ofNat_eq_of_toNat_eq ha,
      ofNat_eq_of_toNat_eq hb, ofNat_eq_of_toNat_eq hc]
  · rw [if_neg hrange] at h
    cases h

theorem encodeChar_of_four? {a b c d : UInt8} {e : Char} (h : four? a b c d = some e) :
    encodeChar e = [a, b, c, d] := by
  obtain ⟨x, hx, h⟩ := Option.bind_eq_some_iff.1 h
  obtain ⟨y, hy, h⟩ := Option.bind_eq_some_iff.1 h
  obtain ⟨z, hz, h⟩ := Option.bind_eq_some_iff.1 h
  obtain ⟨hx64, hb⟩ := eq_of_continuation? hx
  obtain ⟨hy64, hc⟩ := eq_of_continuation? hy
  obtain ⟨hz64, hd⟩ := eq_of_continuation? hz
  by_cases hrange : 0xF0 ≤ a.toNat ∧ a.toNat < 0xF8
  · rw [if_pos hrange] at h
    obtain ⟨he, hleast⟩ := eq_of_scalar? h
    have hone : ¬ e.toNat < 0x80 := by omega
    have htwo : ¬ e.toNat < 0x800 := by omega
    have hthree : ¬ e.toNat < 0x10000 := by omega
    have ha : a.toNat = 0xF0 + e.toNat / 262144 := by omega
    have hb : b.toNat = 0x80 + e.toNat / 4096 % 64 := by omega
    have hc : c.toNat = 0x80 + e.toNat / 64 % 64 := by omega
    have hd : d.toNat = 0x80 + e.toNat % 64 := by omega
    simp only [encodeChar, if_neg hone, if_neg htwo, if_neg hthree, ofNat_eq_of_toNat_eq ha,
      ofNat_eq_of_toNat_eq hb, ofNat_eq_of_toNat_eq hc, ofNat_eq_of_toNat_eq hd]
  · rw [if_neg hrange] at h
    cases h

theorem exists_of_cons_eq_some {x : Option Char} {y : Option (List Char)} {text : List Char}
    (h : (do return (← x) :: (← y)) = some text) :
    ∃ c tail, x = some c ∧ y = some tail ∧ text = c :: tail := by
  obtain ⟨c, hc, h⟩ := Option.bind_eq_some_iff.1 h
  obtain ⟨tail, htail, h⟩ := Option.bind_eq_some_iff.1 h
  exact ⟨c, tail, hc, htail, (Option.some.inj h).symm⟩

theorem flatMap_encodeChar_of_decodeChars? {bytes : Bytes} {text : List Char}
    (h : decodeChars? bytes = some text) : text.flatMap encodeChar = bytes := by
  -- one case for each length of the first character, and one for each way to be cut short
  fun_induction decodeChars? bytes generalizing text with
  | case1 =>
    cases h
    rfl
  | case2 a rest ha ih =>
    obtain ⟨tail, htail, rfl⟩ := Option.map_eq_some_iff.1 h
    rw [List.flatMap_cons, encodeChar_ofNat ha, ih htail]
    rfl
  | case3 a _ _ b rest ih =>
    obtain ⟨c, tail, hc, htail, rfl⟩ := exists_of_cons_eq_some h
    rw [List.flatMap_cons, encodeChar_of_two? hc, ih htail]
    rfl
  | case5 a _ _ _ b c rest ih =>
    obtain ⟨d, tail, hd, htail, rfl⟩ := exists_of_cons_eq_some h
    rw [List.flatMap_cons, encodeChar_of_three? hd, ih htail]
    rfl
  | case7 a _ _ _ b c d rest ih =>
    obtain ⟨e, tail, he, htail, rfl⟩ := exists_of_cons_eq_some h
    rw [List.flatMap_cons, encodeChar_of_four? he, ih htail]
    rfl
  | case4 | case6 | case8 => cases h

theorem encode_of_decode? {bytes : Bytes} {text : String} (h : decode? bytes = some text) :
    encode text = bytes := by
  obtain ⟨chars, hchars, rfl⟩ := Option.map_eq_some_iff.1 h
  rw [encode, String.toList_ofList, flatMap_encodeChar_of_decodeChars? hchars]

/-! ## Well-formed octets lose nothing -/

theorem lossyChars_cons {a : UInt8} {rest : Bytes} {c : Char} {length : Nat}
    (h : front? a rest = some (c, length)) :
    lossyChars 0 (a :: rest) = c :: lossyChars length rest := by
  rw [lossyChars, h]

theorem lossyChars_of_decodeChars? {bytes : Bytes} {text : List Char}
    (h : decodeChars? bytes = some text) : lossyChars 0 bytes = text := by
  -- Whole characters are always at the front, so the octets skipped behind a first one are its own.
  fun_induction decodeChars? bytes generalizing text with
  | case1 =>
    cases h
    rfl
  | case2 a rest ha ih =>
    obtain ⟨tail, htail, rfl⟩ := Option.map_eq_some_iff.1 h
    have hfront : front? a rest = some (Char.ofNat a.toNat, 0) := by rw [front?, if_pos ha]
    rw [lossyChars_cons hfront, ih htail]
  | case3 a ha ha' b rest ih =>
    obtain ⟨c, tail, hc, htail, rfl⟩ := exists_of_cons_eq_some h
    have hfront : front? a (b :: rest) = some (c, 1) := by
      rw [front?, if_neg ha, if_pos ha', List.getD_cons_zero, hc]
      rfl
    rw [lossyChars_cons hfront, lossyChars, ih htail]
  | case5 a ha ha' ha'' b c rest ih =>
    obtain ⟨d, tail, hd, htail, rfl⟩ := exists_of_cons_eq_some h
    have hfront : front? a (b :: c :: rest) = some (d, 2) := by
      rw [front?, if_neg ha, if_neg ha', if_pos ha'', List.getD_cons_zero, List.getD_cons_succ,
        List.getD_cons_zero, hd]
      rfl
    rw [lossyChars_cons hfront, lossyChars, lossyChars, ih htail]
  | case7 a ha ha' ha'' b c d rest ih =>
    obtain ⟨e, tail, he, htail, rfl⟩ := exists_of_cons_eq_some h
    have hfront : front? a (b :: c :: d :: rest) = some (e, 3) := by
      rw [front?, if_neg ha, if_neg ha', if_neg ha'', List.getD_cons_zero, List.getD_cons_succ,
        List.getD_cons_zero, List.getD_cons_succ, List.getD_cons_succ, List.getD_cons_zero, he]
      rfl
    rw [lossyChars_cons hfront, lossyChars, lossyChars, lossyChars, ih htail]
  | case4 | case6 | case8 => cases h

@[simp] theorem decodeLossy_encode (text : String) : decodeLossy (encode text) = text := by
  rw [decodeLossy, encode, lossyChars_of_decodeChars? (decodeChars?_flatMap_encodeChar _),
    String.ofList_toList]

/-- A character that is cut short counts once, what follows it is read as before. -/
example : lossyChars 0 [0xF0, 0x9F, 0x98, 0x41, 0xED, 0xA0, 0xC3, 0xA9] =
    ['\uFFFD', 'A', '\uFFFD', '\uFFFD', 'é'] := by
  decide +kernel

end EnclaveRegistry.Utf8
