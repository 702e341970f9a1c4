import EnclaveRegistry.Proofs.Text.Base64
import Mathlib.Data.Nat.Digits.Lemmas

/-! # Which texts are base64

The symbols of a text are the digits of a number in base 64, and the octets it stands for are the
digits of that number in base 256, less two bits for each pad. These bits are zero, and the pads
fill up the last group. No other text is read, and no two texts are read as the same octets.
-/
namespace EnclaveRegistry

namespace Bytes

theorem toNatLE_eq_ofDigits (bytes : Bytes) :
    toNatLE bytes = Nat.ofDigits 256 (bytes.map UInt8.toNat) := by
  induction bytes with
  | nil => rfl
  | cons b rest ih => rw [toNatLE, ih, List.map_cons, Nat.ofDigits_cons]

@[simp] theorem toNatBE_nil : toNatBE [] = 0 := rfl

theorem toNatBE_append (front back : Bytes) :
    toNatBE (front ++ back) = toNatBE back + 256 ^ back.length * toNatBE front := by
  simp [toNatBE, toNatLE_eq_ofDigits, Nat.ofDigits_append]

theorem toNatBE_cons (octet : UInt8) (rest : Bytes) :
    toNatBE (octet :: rest) = toNatBE rest + 256 ^ rest.length * octet.toNat := by
  rw [← List.singleton_append, toNatBE_append]
  rfl

end Bytes

namespace Base64

open Bytes (toNatBE toNatBE_append toNatBE_cons toNatBE_nil)

variable {text bytes : Bytes}

/-! ## Texts as numbers -/

def alphabet : Bytes :=
  Bytes.ascii "ABCDEFGHIJKLMNOPQRSTUVWXYZabcdefghijklmnopqrstuvwxyz0123456789+/"

/-- The number whose digits in base 64 are symbols, the most significant first. -/
def sextets (symbols : Bytes) : Nat := Nat.ofDigits 64 (symbols.reverse.map alphabet.idxOf)

/-- Whether a text consists of symbols and pads that spell octets: at most two pads fill up the last
group of four, and the symbols are the digits of the octets' number with two zero bits behind it
for each pad. -/
structure Spells (text bytes symbols : Bytes) (pads : Nat) : Prop where
  text_eq : text = symbols ++ List.replicate pads pad
  mem_alphabet : ∀ octet ∈ symbols, octet ∈ alphabet
  pads_le : pads ≤ 2
  length_eq : 3 * text.length = 4 * (bytes.length + pads)
  value_eq : sextets symbols = toNatBE bytes * 4 ^ pads

theorem alphabet_eq : alphabet = (List.range 64).map symbol := by
  decide +kernel

theorem symbol_mem_alphabet (value : Nat) (h : value < 64) : symbol value ∈ alphabet := by
  rw [alphabet_eq]
  exact List.mem_map_of_mem (List.mem_range.2 h)

theorem idxOf_symbol (value : Nat) (h : value < 64) : alphabet.idxOf (symbol value) = value := by
  have hall : ∀ value < 64, ((List.range 64).map symbol).idxOf (symbol value) = value := by
    decide +kernel
  rw [alphabet_eq]
  exact hall value h

@[simp] theorem sextets_nil : sextets [] = 0 := rfl

theorem sextets_append (front back : Bytes) :
    sextets (front ++ back) = sextets back + 64 ^ back.length * sextets front := by
  simp [sextets, Nat.ofDigits_append]

theorem sextets_cons {value : Nat} (h : value < 64) (rest : Bytes) :
    sextets (symbol value :: rest) = sextets rest + 64 ^ rest.length * value := by
  have hsymbol : sextets [symbol value] = value := by simp [sextets, idxOf_symbol value h]
  rw [← List.singleton_append, sextets_append, hsymbol]

namespace Spells

variable {symbols : Bytes} {pads : Nat}

theorem length_symbols (h : Spells text bytes symbols pads) :
    symbols.length + pads = text.length := by
  rw [h.text_eq, List.length_append, List.length_replicate]

/-- Sextets and octets count the same bits. -/
theorem pow_length (h : Spells text bytes symbols pads) :
    64 ^ symbols.length = 256 ^ bytes.length * 4 ^ pads := by
  have hbits : 6 * symbols.length = 8 * bytes.length + 2 * pads := by
    have hlength := h.length_eq
    rw [← h.length_symbols] at hlength
    omega
  have hsix : (2 : Nat) ^ 6 = 64 := by norm_num
  have height : (2 : Nat) ^ 8 = 256 := by norm_num
  have htwo : (2 : Nat) ^ 2 = 4 := by norm_num
  rw [← hsix, ← height, ← htwo, ← pow_mul, ← pow_mul, ← pow_mul, ← pow_add, hbits]

theorem cons_group (h : Spells text bytes symbols pads) (a b c : UInt8) :
    Spells (encode [a, b, c] ++ text) ([a, b, c] ++ bytes) (encode [a, b, c] ++ symbols) pads where
  text_eq := by rw [h.text_eq, List.append_assoc]
  mem_alphabet := by
    have ha := a.toNat_lt
    have hb := b.toNat_lt
    have hc := c.toNat_lt
    simp only [encode, List.cons_append, List.nil_append, List.forall_mem_cons]
    exact ⟨symbol_mem_alphabet _ (by omega), symbol_mem_alphabet _ (by omega),
      symbol_mem_alphabet _ (by omega), symbol_mem_alphabet _ (by omega), h.mem_alphabet⟩
  pads_le := h.pads_le
  length_eq := by
    have hlength := h.length_eq
    simp only [encode, List.length_append, List.length_cons, List.length_nil]
    omega
  value_eq := by
    have ha := a.toNat_lt
    have hb := b.toNat_lt
    have hc := c.toNat_lt
    have hgroup : sextets (encode [a, b, c]) = toNatBE [a, b, c] := by
      rw [encode, encode, sextets_cons (by omega), sextets_cons (by omega),
        sextets_cons (by omega), sextets_cons (by omega)]
      simp only [toNatBE_cons, sextets_nil, toNatBE_nil, List.length_cons, List.length_nil]
      omega
    rw [sextets_append, toNatBE_append, h.value_eq, h.pow_length, hgroup]
    ring

end Spells

theorem spells_one (a : UInt8) :
    Spells (encode [a]) [a] [symbol (a.toNat / 4), symbol (a.toNat % 4 * 16)] 2 where
  text_eq := rfl
  mem_alphabet := by
    have ha := a.toNat_lt
    simp only [List.forall_mem_cons]
    exact ⟨symbol_mem_alphabet _ (by omega), symbol_mem_alphabet _ (by omega),
      List.forall_mem_nil _⟩
  pads_le := le_rfl
  length_eq := rfl
  value_eq := by
    have ha := a.toNat_lt
    rw [sextets_cons (by omega), sextets_cons (by omega)]
    simp only [toNatBE_cons, sextets_nil, toNatBE_nil, List.length_cons, List.length_nil]
    omega

theorem spells_two (a b : UInt8) :
    Spells (encode [a, b]) [a, b] [symbol (a.toNat / 4), symbol (a.toNat % 4 * 16 + b.toNat / 16),
      symbol (b.toNat % 16 * 4)] 1 where
  text_eq := rfl
  mem_alphabet := by
    have ha := a.toNat_lt
    have hb := b.toNat_lt
    simp only [List.forall_mem_cons]
    exact ⟨symbol_mem_alphabet _ (by omega), symbol_mem_alphabet _ (by omega),
      symbol_mem_alphabet _ (by omega), List.forall_mem_nil _⟩
  pads_le := Nat.le_succ 1
  length_eq := rfl
  value_eq := by
    have ha := a.toNat_lt
    have hb := b.toNat_lt
    rw [sextets_cons (by omega), sextets_cons (by omega), sextets_cons (by omega)]
    simp only [toNatBE_cons, sextets_nil, toNatBE_nil, List.length_cons, List.length_nil]
    omega

theorem exists_spells_encode (bytes : Bytes) :
    ∃ symbols pads, Spells (encode bytes) bytes symbols pads := by
  fun_induction encode bytes with
  | case1 => exact ⟨[], 0, rfl, List.forall_mem_nil _, Nat.zero_le 2, rfl, rfl⟩
  | case2 a => exact ⟨_, 2, spells_one a⟩
  | case3 a b => exact ⟨_, 1, spells_two a b⟩
  | case4 a b c rest ih =>
    obtain ⟨symbols, pads, h⟩ := ih
    exact ⟨_, pads, h.cons_group a b c⟩

theorem exists_symbol_of_mem_alphabet {octet : UInt8} (h : octet ∈ alphabet) :
    ∃ value < 64, octet = symbol value := by
  rw [alphabet_eq] at h
  obtain ⟨value, hvalue, rfl⟩ := List.mem_map.1 h
  exact ⟨value, List.mem_range.1 hvalue, rfl⟩

theorem idxOf_lt {octet : UInt8} (h : octet ∈ alphabet) : alphabet.idxOf octet < 64 := by
  obtain ⟨value, hvalue, rfl⟩ := exists_symbol_of_mem_alphabet h
  rwa [idxOf_symbol value hvalue]

theorem symbol_idxOf {octet : UInt8} (h : octet ∈ alphabet) :
    symbol (alphabet.idxOf octet) = octet := by
  obtain ⟨value, hvalue, rfl⟩ := exists_symbol_of_mem_alphabet h
  rw [idxOf_symbol value hvalue]

theorem map_symbol_map_idxOf {symbols : Bytes} (h : ∀ octet ∈ symbols, octet ∈ alphabet) :
    (symbols.map alphabet.idxOf).map symbol = symbols := by
  induction symbols with
  | nil => rfl
  | cons octet rest ih =>
    obtain ⟨hoctet, hrest⟩ := List.forall_mem_cons.1 h
    rw [List.map_cons, List.map_cons, symbol_idxOf hoctet, ih hrest]

theorem sextets_inj {front back : Bytes} (hlength : front.length = back.length)
    (hfront : ∀ octet ∈ front, octet ∈ alphabet) (hback : ∀ octet ∈ back, octet ∈ alphabet)
    (h : sextets front = sextets back) : front = back := by
  have hreverse : front.reverse.map alphabet.idxOf = back.reverse.map alphabet.idxOf := by
    refine Nat.ofDigits_inj_of_len_eq (by decide) (by simpa using hlength) ?_ ?_ h
    all_goals
      intro digit hmem
      obtain ⟨octet, hoctet, rfl⟩ := List.mem_map.1 hmem
      rw [List.mem_reverse] at hoctet
    · exact idxOf_lt (hfront octet hoctet)
    · exact idxOf_lt (hback octet hoctet)
  rw [List.map_reverse, List.map_reverse, List.reverse_inj] at hreverse
  rw [← map_symbol_map_idxOf hfront, hreverse, map_symbol_map_idxOf hback]

/-- The octets determine the text: how many pads there are, and every symbol. -/
theorem Spells.text_unique {symbols others other : Bytes} {pads fewer : Nat}
    (h : Spells text bytes symbols pads) (hother : Spells other bytes others fewer) :
    text = other := by
  have hlength := h.length_eq
  have hotherLength := hother.length_eq
  have hpads : pads = fewer := by
    have hle := h.pads_le
    have hotherLe := hother.pads_le
    omega
  subst hpads
  have hsymbols : symbols = others := by
    refine sextets_inj ?_ h.mem_alphabet hother.mem_alphabet (h.value_eq.trans hother.value_eq.symm)
    have hsum := h.length_symbols
    have hotherSum := hother.length_symbols
    omega
  rw [h.text_eq, hother.text_eq, hsymbols]

theorem decode_eq_ok_iff_spells :
    decode text = .ok bytes ↔ ∃ symbols pads, Spells text bytes symbols pads := by
  rw [decode_eq_ok_iff]
  constructor
  · rintro rfl
    exact exists_spells_encode bytes
  · rintro ⟨symbols, pads, h⟩
    obtain ⟨others, fewer, hencode⟩ := exists_spells_encode bytes
    exact h.text_unique hencode

end Base64
end EnclaveRegistry
