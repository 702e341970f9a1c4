import EnclaveRegistry.Proofs.Cbor.ByteString
import EnclaveRegistry.Proofs.Text.Utf8

/-! # Spellings of CBOR items

The argument of a head may be sent in the shortest width that it fits or in any wider one, and
each head of an item makes that choice for itself. An item whose strings, arrays and maps are of
stated length is read back from every spelling, and what follows it is left.
-/
namespace EnclaveRegistry.Cbor

/-- The octets that a head may be sent as: its argument stands in the first of them, or in the one,
two, four or eight behind it. -/
inductive HeadSpelled (major argument : Nat) : Bytes → Prop
  | short : argument < 24 → HeadSpelled major argument [UInt8.ofNat (32 * major + argument)]
  | long (minor : Nat) : 24 ≤ minor → minor < 28 → argument < Nat.pow 256 (1 <<< (minor - 24)) →
      HeadSpelled major argument
        (UInt8.ofNat (32 * major + minor) :: Bytes.ofNatBE (1 <<< (minor - 24)) argument)

mutual

/-- The octets that an item of stated lengths may be sent as. -/
inductive Spelled : Item → Bytes → Prop
  | unsigned {value : Nat} {head : Bytes} :
      HeadSpelled 0 value head → Spelled (.unsigned value) head
  | negative {value : Nat} {head : Bytes} :
      HeadSpelled 1 value head → Spelled (.negative value) head
  | bytes {content head : Bytes} :
      HeadSpelled 2 content.length head → Spelled (.bytes content false) (head ++ content)
  | text {text : String} {head : Bytes} :
      HeadSpelled 3 (Utf8.encode text).length head →
      Spelled (.text text false) (head ++ Utf8.encode text)
  | array {items : List Item} {head inside : Bytes} :
      HeadSpelled 4 items.length head → SpelledInOrder items inside →
      Spelled (.array items) (head ++ inside)
  | map {entries : List (Item × Item)} {head inside : Bytes} :
      HeadSpelled 5 entries.length head →
      SpelledInOrder (entries.flatMap fun entry => [entry.1, entry.2]) inside →
      Spelled (.map entries) (head ++ inside)
  | null : Spelled (.simple 22) [246]

inductive SpelledInOrder : List Item → Bytes → Prop
  | nil : SpelledInOrder [] []
  | cons {item : Item} {items : List Item} {octets inside : Bytes} :
      Spelled item octets → SpelledInOrder items inside →
      SpelledInOrder (item :: items) (octets ++ inside)

end

/-! ## Heads -/

variable {major argument : Nat} {head : Bytes}

theorem headSpelled_writeHead (major : Nat) (h : argument < UInt64.size) :
    HeadSpelled major argument (writeHead major argument) := by
  rw [writeHead]
  dsimp only
  split
  · exact .short ‹_›
  split
  · exact .long 24 (by decide) (by decide) ‹_›
  split
  · exact .long 25 (by decide) (by decide) ‹_›
  split
  · exact .long 26 (by decide) (by decide) ‹_›
  · exact .long 27 (by decide) (by decide) h

theorem HeadSpelled.length_pos (h : HeadSpelled major argument head) : 0 < head.length := by
  cases h <;> exact Nat.succ_pos _

theorem HeadSpelled.read (h : HeadSpelled major argument head) (hmajor : major < 8) :
    ∃ width, ∀ rest, Head.read (head ++ rest) = some (⟨major, width, some argument⟩, rest) := by
  cases h with
  | short hlt => exact ⟨0, fun _ => Head.read_short hmajor hlt⟩
  | long minor hlow hhigh hlt =>
    refine ⟨1 <<< (minor - 24), fun rest => ?_⟩
    exact (Head.read_long hmajor minor hlow hhigh).trans (by rw [Nat.mod_eq_of_lt hlt])

theorem Spelled.length_pos {item : Item} {octets : Bytes} (h : Spelled item octets) :
    0 < octets.length := by
  cases h with
  | null => exact Nat.one_pos
  | unsigned hhead | negative hhead => exact hhead.length_pos
  | bytes hhead | text hhead | array hhead | map hhead =>
    rw [List.length_append]
    exact Nat.add_pos_left hhead.length_pos _

/-! ## Written items -/

mutual

/-- Whether an item has only strings, arrays and maps of stated lengths inside, and its lengths and
numbers are below `2 ^ 64`. -/
def Item.isDefinite : Item → Bool
  | .unsigned value | .negative value => value < UInt64.size
  | .bytes content chunked => !chunked && content.length < UInt64.size
  | .text content chunked => !chunked && (Utf8.encode content).length < UInt64.size
  | .array items => items.length < UInt64.size && areDefinite items
  | .map entries => entries.length < UInt64.size && haveTwoDefinite entries
  | .simple value => value == 22
  | .tagged _ _ | .float _ => false

def Item.areDefinite : List Item → Bool
  | [] => true
  | item :: rest => item.isDefinite && areDefinite rest

def Item.haveTwoDefinite : List (Item × Item) → Bool
  | [] => true
  | (key, value) :: rest => key.isDefinite && value.isDefinite && haveTwoDefinite rest

end

mutual

theorem Item.spelled_write : (item : Item) → item.isDefinite = true → Spelled item item.write
  | .unsigned value, h => .unsigned (headSpelled_writeHead 0 (of_decide_eq_true h))
  | .negative value, h => .negative (headSpelled_writeHead 1 (of_decide_eq_true h))
  | .bytes content chunked, h => by
    obtain ⟨hwhole, hlength⟩ := Bool.and_eq_true_iff.1 h
    cases chunked with
    | false => exact .bytes (headSpelled_writeHead 2 (of_decide_eq_true hlength))
    | true => cases hwhole
  | .text content chunked, h => by
    obtain ⟨hwhole, hlength⟩ := Bool.and_eq_true_iff.1 h
    cases chunked with
    | false => exact .text (headSpelled_writeHead 3 (of_decide_eq_true hlength))
    | true => cases hwhole
  | .array items, h => by
    obtain ⟨hlength, hitems⟩ := Bool.and_eq_true_iff.1 h
    exact .array (headSpelled_writeHead 4 (of_decide_eq_true hlength))
      (spelled_writeItems items hitems)
  | .map entries, h => by
    obtain ⟨hlength, hentries⟩ := Bool.and_eq_true_iff.1 h
    exact .map (headSpelled_writeHead 5 (of_decide_eq_true hlength))
      (spelled_writeEntries entries hentries)
  | .simple value, h => by
    have hnull : value = 22 := eq_of_beq h
    rw [hnull]
    exact .null

theorem spelled_writeItems : (items : List Item) → Item.areDefinite items = true →
    SpelledInOrder items (writeItems items)
  | [], _ => .nil
  | item :: rest, h => by
    obtain ⟨hitem, hrest⟩ := Bool.and_eq_true_iff.1 h
    exact .cons (item.spelled_write hitem) (spelled_writeItems rest hrest)

theorem spelled_writeEntries : (entries : List (Item × Item)) →
    Item.haveTwoDefinite entries = true →
      SpelledInOrder (entries.flatMap fun entry => [entry.1, entry.2]) (writeEntries entries)
  | [], _ => .nil
  | (key, value) :: rest, h => by
    obtain ⟨hentry, hrest⟩ := Bool.and_eq_true_iff.1 h
    obtain ⟨hkey, hvalue⟩ := Bool.and_eq_true_iff.1 hentry
    rw [writeEntries, List.append_assoc]
    exact .cons (key.spelled_write hkey)
      (.cons (value.spelled_write hvalue) (spelled_writeEntries rest hrest))

end

/-! ## Reading back -/

theorem takeContent_append (content rest : Bytes) :
    takeContent content.length (content ++ rest) = some (content, rest) := by
  rw [takeContent, if_neg (by simp), List.take_left, List.drop_left]

theorem pairs?_flatMap (entries : List (Item × Item)) :
    pairs? (entries.flatMap fun entry => [entry.1, entry.2]) = some entries := by
  induction entries with
  | nil => rfl
  | cons entry rest ih => simp [List.flatMap_cons, pairs?, ih]

theorem length_flatMap_pair (entries : List (Item × Item)) :
    (entries.flatMap fun entry => [entry.1, entry.2]).length = 2 * entries.length := by
  induction entries with
  | nil => rfl
  | cons entry rest ih =>
    rw [List.flatMap_cons, List.length_append, ih, List.length_cons]
    exact (Nat.add_comm ..).trans (Nat.mul_succ ..).symm

-- Every level takes two steps, one for the list that an item stands in and one for the item, and
-- at least one octet for its head.
mutual

theorem Spelled.readItem {item : Item} {octets : Bytes} :
    Spelled item octets → ∀ fuel, 2 * octets.length ≤ fuel + 1 → ∀ rest,
      readItem fuel (octets ++ rest) = some (item, rest)
  | h, 0, hfuel, rest => by
    have := h.length_pos
    omega
  | .unsigned hhead, fuel + 1, hfuel, rest => by
    obtain ⟨width, hread⟩ := hhead.read (by decide)
    simp [Cbor.readItem, hread, leaf?]
  | .negative hhead, fuel + 1, hfuel, rest => by
    obtain ⟨width, hread⟩ := hhead.read (by decide)
    simp [Cbor.readItem, hread, leaf?]
  | .null, fuel + 1, hfuel, rest => by
    have hread : Head.read (246 :: rest) = some (⟨7, 0, some 22⟩, rest) :=
      Head.read_short (by decide : 7 < 8) (by decide : 22 < 24)
    simp [Cbor.readItem, hread, leaf?]
  | .bytes hhead, fuel + 1, hfuel, rest => by
    obtain ⟨width, hread⟩ := hhead.read (by decide)
    simp [Cbor.readItem, hread, takeContent_append]
  | .text hhead, fuel + 1, hfuel, rest => by
    obtain ⟨width, hread⟩ := hhead.read (by decide)
    simp [Cbor.readItem, hread, takeContent_append]
  | .array hhead hinside, fuel + 1, hfuel, rest => by
    obtain ⟨width, hread⟩ := hhead.read (by decide)
    have hpos := hhead.length_pos
    rw [List.length_append] at hfuel
    have hitems := hinside.readItems fuel (by omega)
    simp [Cbor.readItem, hread, hitems]
  | .map hhead hinside, fuel + 1, hfuel, rest => by
    obtain ⟨width, hread⟩ := hhead.read (by decide)
    have hpos := hhead.length_pos
    rw [List.length_append] at hfuel
    have hitems := hinside.readItems fuel (by omega)
    rw [length_flatMap_pair] at hitems
    simp [Cbor.readItem, hread, hitems, pairs?_flatMap]

theorem SpelledInOrder.readItems {items : List Item} {inside : Bytes} :
    SpelledInOrder items inside → ∀ fuel, 2 * inside.length ≤ fuel → ∀ rest,
      readItems fuel items.length (inside ++ rest) = some (items, rest)
  | .nil, fuel, hfuel, rest => by simp [Cbor.readItems]
  | .cons h htail, 0, hfuel, rest => by
    have := h.length_pos
    rw [List.length_append] at hfuel
    omega
  | .cons h htail, fuel + 1, hfuel, rest => by
    have hpos := h.length_pos
    rw [List.length_append] at hfuel
    have hitem := h.readItem fuel (by omega)
    have hitems := htail.readItems fuel (by omega)
    simp [Cbor.readItems, hitem, hitems]

end

/-- An item is read back from every spelling, with whatever follows. -/
theorem Spelled.read {item : Item} {octets : Bytes} (h : Spelled item octets) (rest : Bytes) :
    Item.read (octets ++ rest) = some (item, rest) := by
  refine h.readItem _ ?_ rest
  rw [List.length_append]
  omega

theorem Spelled.readWhole {item : Item} {octets : Bytes} (h : Spelled item octets) :
    Item.readWhole octets = some item := by
  have hread := h.read []
  rw [List.append_nil] at hread
  simp [Item.readWhole, hread]

end EnclaveRegistry.Cbor
