import EnclaveRegistry.Proofs.Result
import EnclaveRegistry.Text.Base64

/-! # Base64 texts are read back

Every group of symbols gives back the octets that it was written for, and so does the padded group
at the end. Nothing but what is written for them is read as octets, so a text never stands for more
octets than it has itself.
-/
namespace EnclaveRegistry.Base64

open Result (bind_eq_ok_iff)

/-! ## Single symbols -/

theorem symbolValue?_symbol : ∀ value < 64, symbolValue? (symbol value) = some value := by
  decide

theorem symbol_ne_pad : ∀ value < 64, symbol value ≠ pad := by
  decide

theorem toNat_symbol_lt : ∀ value < 64, (symbol value).toNat < 128 := by
  decide

theorem symbolAt_symbol {value : Nat} (h : value < 64) (offset : Nat) :
    symbolAt (symbol value) offset = .ok value := by
  rw [symbolAt, symbolValue?_symbol value h]

theorem ofNat_eq {octet : UInt8} {value : Nat} (h : value = octet.toNat) :
    UInt8.ofNat value = octet := by
  rw [h, UInt8.ofNat_toNat]

/-! ## Groups of symbols -/

theorem decodeFour_symbols (a b c : UInt8) (offset : Nat) :
    decodeFour (symbol (a.toNat / 4)) (symbol (a.toNat % 4 * 16 + b.toNat / 16))
      (symbol (b.toNat % 16 * 4 + c.toNat / 64)) (symbol (c.toNat % 64)) offset =
        .ok [a, b, c] := by
  have ha := a.toNat_lt
  have hb := b.toNat_lt
  have hc := c.toNat_lt
  have hfirst : UInt8.ofNat (a.toNat / 4 * 4 + (a.toNat % 4 * 16 + b.toNat / 16) / 16) = a :=
    ofNat_eq (by omega)
  have hsecond : UInt8.ofNat ((a.toNat % 4 * 16 + b.toNat / 16) % 16 * 16 +
      (b.toNat % 16 * 4 + c.toNat / 64) / 4) = b := ofNat_eq (by omega)
  have hthird : UInt8.ofNat ((b.toNat % 16 * 4 + c.toNat / 64) % 4 * 64 + c.toNat % 64) = c :=
    ofNat_eq (by omega)
  rw [decodeFour, symbolAt_symbol (by omega), symbolAt_symbol (by omega),
    symbolAt_symbol (by omega), symbolAt_symbol (by omega)]
  simp only [Result.ok_bind, Result.pure_eq_ok, group, hfirst, hsecond, hthird]

theorem decodeThree_symbols (a b : UInt8) (offset : Nat) :
    decodeThree (symbol (a.toNat / 4)) (symbol (a.toNat % 4 * 16 + b.toNat / 16))
      (symbol (b.toNat % 16 * 4)) offset = .ok [a, b] := by
  have ha := a.toNat_lt
  have hb := b.toNat_lt
  have hfirst : UInt8.ofNat (a.toNat / 4 * 4 + (a.toNat % 4 * 16 + b.toNat / 16) / 16) = a :=
    ofNat_eq (by omega)
  have hsecond : UInt8.ofNat ((a.toNat % 4 * 16 + b.toNat / 16) % 16 * 16 +
      b.toNat % 16 * 4 / 4) = b := ofNat_eq (by omega)
  have hunused : ¬ b.toNat % 16 * 4 % 4 ≠ 0 := by omega
  rw [decodeThree, symbolAt_symbol (by omega), symbolAt_symbol (by omega),
    symbolAt_symbol (by omega)]
  simp only [Result.ok_bind, Result.pure_eq_ok, if_neg hunused, hfirst, hsecond]

theorem decodeTwo_symbols (a : UInt8) (offset : Nat) :
    decodeTwo (symbol (a.toNat / 4)) (symbol (a.toNat % 4 * 16)) offset = .ok [a] := by
  have ha := a.toNat_lt
  have hfirst : UInt8.ofNat (a.toNat / 4 * 4 + a.toNat % 4 * 16 / 16) = a := ofNat_eq (by omega)
  have hunused : ¬ a.toNat % 4 * 16 % 16 ≠ 0 := by omega
  rw [decodeTwo, symbolAt_symbol (by omega), symbolAt_symbol (by omega)]
  simp only [Result.ok_bind, Result.pure_eq_ok, if_neg hunused, hfirst]

/-! ## Whole texts -/

theorem length_encode_mod (bytes : Bytes) : (encode bytes).length % 4 = 0 := by
  fun_induction encode bytes with
  | case1 => rfl
  | case2 a => simp
  | case3 a b => simp
  | case4 a b c rest ih =>
    simp only [List.length_cons]
    omega

theorem decodeGroups_encode (bytes : Bytes) (offset : Nat) :
    decodeGroups (encode bytes) offset = .ok bytes := by
  fun_induction encode bytes generalizing offset with
  | case1 => rfl
  | case2 a =>
    change decodeLast [_, _, pad, pad] offset = _
    rw [decodeLast, if_pos rfl, if_pos rfl, decodeTwo_symbols]
  | case3 a b =>
    have hsymbol : symbol (b.toNat % 16 * 4) ≠ pad := symbol_ne_pad _ (by omega)
    change decodeLast [_, _, _, pad] offset = _
    rw [decodeLast, if_neg hsymbol, if_pos rfl, decodeThree_symbols]
  | case4 a b c rest ih =>
    have hb := b.toNat_lt
    have hc := c.toNat_lt
    have hthird : symbol (b.toNat % 16 * 4 + c.toNat / 64) ≠ pad := symbol_ne_pad _ (by omega)
    have hfourth : symbol (c.toNat % 64) ≠ pad := symbol_ne_pad _ (by omega)
    -- a last group may be padded, so it is read by other rules than the groups before it
    cases hrest : encode rest with
    | nil =>
      have hnil : rest = [] := by
        have h := ih 0
        rw [hrest] at h
        exact (Except.ok.inj h).symm
      change decodeLast [_, _, _, _] offset = _
      rw [decodeLast, if_neg hthird, if_neg hfourth, decodeFour_symbols, hnil]
    | cons e tail =>
      rw [decodeGroups, decodeFour_symbols, ← hrest, ih]
      rfl

theorem strayEnd?_encode (bytes : Bytes) : strayEnd? (encode bytes) = none := by
  have hlength : ¬ (encode bytes).length % 4 = 1 := by rw [length_encode_mod]; decide
  rw [strayEnd?, if_neg hlength]

@[simp] theorem decode_encode (bytes : Bytes) : decode (encode bytes) = .ok bytes := by
  rw [decode, strayEnd?_encode]
  exact decodeGroups_encode bytes 0

theorem toNat_lt_of_mem_encode {bytes : Bytes} {octet : UInt8} (h : octet ∈ encode bytes) :
    octet.toNat < 128 := by
  fun_induction encode bytes with
  | case1 => simp at h
  | case2 a =>
    have ha := a.toNat_lt
    simp only [List.mem_cons, List.not_mem_nil, or_false] at h
    rcases h with rfl | rfl | rfl | rfl
    · exact toNat_symbol_lt _ (by omega)
    · exact toNat_symbol_lt _ (by omega)
    · decide
    · decide
  | case3 a b =>
    have ha := a.toNat_lt
    have hb := b.toNat_lt
    simp only [List.mem_cons, List.not_mem_nil, or_false] at h
    rcases h with rfl | rfl | rfl | rfl
    · exact toNat_symbol_lt _ (by omega)
    · exact toNat_symbol_lt _ (by omega)
    · exact toNat_symbol_lt _ (by omega)
    · decide
  | case4 a b c rest ih =>
    have ha := a.toNat_lt
    have hb := b.toNat_lt
    have hc := c.toNat_lt
    simp only [List.mem_cons] at h
    rcases h with rfl | rfl | rfl | rfl | h
    · exact toNat_symbol_lt _ (by omega)
    · exact toNat_symbol_lt _ (by omega)
    · exact toNat_symbol_lt _ (by omega)
    · exact toNat_symbol_lt _ (by omega)
    · exact ih h

/-! ## A group that is read is the way its octets are written -/

theorem eq_symbol_of_symbolValue? {octet : UInt8} {value : Nat}
    (h : symbolValue? octet = some value) : value < 64 ∧ octet = symbol value := by
  have hall : ∀ n < 256, ∀ value ∈ symbolValue? (UInt8.ofNat n),
      value < 64 ∧ UInt8.ofNat n = symbol value := by decide +kernel
  have hoctet := hall octet.toNat octet.toNat_lt value
  rw [UInt8.ofNat_toNat] at hoctet
  exact hoctet h

theorem eq_symbol_of_symbolAt {octet : UInt8} {offset value : Nat}
    (h : symbolAt octet offset = .ok value) : value < 64 ∧ octet = symbol value := by
  rw [symbolAt] at h
  split at h
  · cases h
    exact eq_symbol_of_symbolValue? ‹_›
  · cases h

theorem toNat_ofNat {value : Nat} (h : value < 256) : (UInt8.ofNat value).toNat = value :=
  UInt8.toNat_ofNat_of_lt' h

variable {a b c d : UInt8} {offset : Nat} {text bytes : Bytes}

theorem encode_of_decodeFour (h : decodeFour a b c d offset = .ok bytes) :
    encode bytes = [a, b, c, d] := by
  obtain ⟨w, hw, h⟩ := bind_eq_ok_iff.1 h
  obtain ⟨x, hx, h⟩ := bind_eq_ok_iff.1 h
  obtain ⟨y, hy, h⟩ := bind_eq_ok_iff.1 h
  obtain ⟨z, hz, h⟩ := bind_eq_ok_iff.1 h
  obtain ⟨hw, ha⟩ := eq_symbol_of_symbolAt hw
  obtain ⟨hx, hb⟩ := eq_symbol_of_symbolAt hx
  obtain ⟨hy, hc⟩ := eq_symbol_of_symbolAt hy
  obtain ⟨hz, hd⟩ := eq_symbol_of_symbolAt hz
  cases h
  have hfirst : (w * 4 + x / 16) / 4 = w := by omega
  have hsecond : (w * 4 + x / 16) % 4 * 16 + (x % 16 * 16 + y / 4) / 16 = x := by omega
  have hthird : (x % 16 * 16 + y / 4) % 16 * 4 + (y % 4 * 64 + z) / 64 = y := by omega
  have hfourth : (y % 4 * 64 + z) % 64 = z := by omega
  rw [group, encode, toNat_ofNat (by omega), toNat_ofNat (by omega), toNat_ofNat (by omega),
    hfirst, hsecond, hthird, hfourth, encode, ← ha, ← hb, ← hc, ← hd]

theorem encode_of_decodeThree (h : decodeThree a b c offset = .ok bytes) :
    encode bytes = [a, b, c, pad] := by
  obtain ⟨x, hx, h⟩ := bind_eq_ok_iff.1 h
  obtain ⟨y, hy, h⟩ := bind_eq_ok_iff.1 h
  obtain ⟨z, hz, h⟩ := bind_eq_ok_iff.1 h
  obtain ⟨hx, ha⟩ := eq_symbol_of_symbolAt hx
  obtain ⟨hy, hb⟩ := eq_symbol_of_symbolAt hy
  obtain ⟨hz, hc⟩ := eq_symbol_of_symbolAt hz
  split at h
  · cases h
  · rename_i hunused
    cases h
    have hfirst : (x * 4 + y / 16) / 4 = x := by omega
    have hsecond : (x * 4 + y / 16) % 4 * 16 + (y % 16 * 16 + z / 4) / 16 = y := by omega
    have hthird : (y % 16 * 16 + z / 4) % 16 * 4 = z := by omega
    rw [encode, toNat_ofNat (by omega), toNat_ofNat (by omega), hfirst, hsecond, hthird,
      ← ha, ← hb, ← hc]

theorem encode_of_decodeTwo (h : decodeTwo a b offset = .ok bytes) :
    encode bytes = [a, b, pad, pad] := by
  obtain ⟨x, hx, h⟩ := bind_eq_ok_iff.1 h
  obtain ⟨y, hy, h⟩ := bind_eq_ok_iff.1 h
  obtain ⟨hx, ha⟩ := eq_symbol_of_symbolAt hx
  obtain ⟨hy, hb⟩ := eq_symbol_of_symbolAt hy
  split at h
  · cases h
  · rename_i hunused
    cases h
    have hfirst : (x * 4 + y / 16) / 4 = x := by omega
    have hsecond : (x * 4 + y / 16) % 4 * 16 = y := by omega
    rw [encode, toNat_ofNat (by omega), hfirst, hsecond, ← ha, ← hb]

theorem refuse_ne_ok {error : Error} : refuse error text offset ≠ .ok bytes := by
  induction text generalizing offset with
  | nil => nofun
  | cons octet rest ih =>
    intro h
    obtain ⟨_, _, h⟩ := bind_eq_ok_iff.1 h
    exact ih h

theorem encode_of_decodeLast (h : decodeLast text offset = .ok bytes) : encode bytes = text := by
  unfold decodeLast at h
  split at h
  · cases h
    rfl
  · exact absurd h refuse_ne_ok
  · exact absurd h refuse_ne_ok
  · exact absurd h refuse_ne_ok
  · split at h
    · split at h
      · rename_i hthird hfourth
        rw [encode_of_decodeTwo h, hthird, hfourth]
      · exact absurd h refuse_ne_ok
    split at h
    · rename_i hfourth
      rw [encode_of_decodeThree h, hfourth]
    · exact encode_of_decodeFour h
  · cases h

theorem length_of_decodeFour (h : decodeFour a b c d offset = .ok bytes) : bytes.length = 3 := by
  obtain ⟨w, -, h⟩ := bind_eq_ok_iff.1 h
  obtain ⟨x, -, h⟩ := bind_eq_ok_iff.1 h
  obtain ⟨y, -, h⟩ := bind_eq_ok_iff.1 h
  obtain ⟨z, -, h⟩ := bind_eq_ok_iff.1 h
  cases h
  rfl

theorem encode_append {head : Bytes} (h : head.length = 3) (rest : Bytes) :
    encode (head ++ rest) = encode head ++ encode rest := by
  match head, h with
  | [a, b, c], _ => rfl

theorem encode_of_decodeGroups (h : decodeGroups text offset = .ok bytes) :
    encode bytes = text := by
  fun_induction decodeGroups text offset generalizing bytes with
  | case1 a b c d e rest offset ih =>
    obtain ⟨head, hhead, h⟩ := bind_eq_ok_iff.1 h
    obtain ⟨tail, htail, h⟩ := bind_eq_ok_iff.1 h
    cases h
    rw [encode_append (length_of_decodeFour hhead), encode_of_decodeFour hhead, ih htail]
    rfl
  | case2 => exact encode_of_decodeLast h

/-- A text is read as octets exactly if it is the one that is written for them. -/
theorem decode_eq_ok_iff : decode text = .ok bytes ↔ text = encode bytes := by
  constructor
  · intro h
    rw [decode] at h
    split at h
    · cases h
    · exact (encode_of_decodeGroups h).symm
  · rintro rfl
    exact decode_encode bytes

/-! ## Lengths -/

theorem length_le_length_encode (bytes : Bytes) : bytes.length ≤ (encode bytes).length := by
  fun_induction encode bytes with
  | case1 => exact Nat.le_refl 0
  | case2 a => simp
  | case3 a b => simp
  | case4 a b c rest ih =>
    simp only [List.length_cons]
    omega

theorem length_le_of_decode (h : decode text = .ok bytes) : bytes.length ≤ text.length := by
  rw [decode_eq_ok_iff.1 h]
  exact length_le_length_encode bytes

end EnclaveRegistry.Base64
