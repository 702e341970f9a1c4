import EnclaveRegistry.Cbor.Reader
import EnclaveRegistry.Cbor.Writer

/-! # Byte strings in CBOR

A head that was written is read back, so that a written byte string tells where it ends. A byte
string that is read is no longer than what it is read from.
-/
namespace EnclaveRegistry

theorem Bytes.toNatBE_ofNatBE (width value : Nat) :
    toNatBE (ofNatBE width value) = value % Nat.pow 256 width := by
  rw [toNatBE, ofNatBE, List.reverse_reverse]
  induction width generalizing value with
  | zero => exact (Nat.mod_one value).symm
  | succ width ih =>
    have hpow : Nat.pow 256 (width + 1) = 256 * Nat.pow 256 width := Nat.pow_succ'
    rw [ofNatLE, toNatLE, ih, hpow, Nat.mod_mul, UInt8.toNat_ofNat']

namespace Cbor

/-! ## Heads -/

variable {major minor argument : Nat} {bytes rest : Bytes}

theorem Head.read_short (hmajor : major < 8) (hminor : minor < 24) :
    Head.read (UInt8.ofNat (32 * major + minor) :: rest) =
      some (⟨major, 0, some minor⟩, rest) := by
  have hfirst : (UInt8.ofNat (32 * major + minor)).toNat = 32 * major + minor := by
    simp only [UInt8.toNat_ofNat']
    omega
  have hmajor' : (32 * major + minor) / 32 = major := by omega
  have hminor' : (32 * major + minor) % 32 = minor := by omega
  rw [Head.read]
  simp only [hfirst, hmajor', hminor', if_pos hminor]

theorem Head.read_long (hmajor : major < 8) (minor : Nat) (hlow : 24 ≤ minor)
    (hhigh : minor < 28) :
    Head.read (UInt8.ofNat (32 * major + minor) ::
        (Bytes.ofNatBE (1 <<< (minor - 24)) argument ++ rest)) =
      some (⟨major, 1 <<< (minor - 24), some (argument % Nat.pow 256 (1 <<< (minor - 24)))⟩,
        rest) := by
  have hfirst : (UInt8.ofNat (32 * major + minor)).toNat = 32 * major + minor := by
    simp only [UInt8.toNat_ofNat']
    omega
  have hmajor' : (32 * major + minor) / 32 = major := by omega
  have hminor' : (32 * major + minor) % 32 = minor := by omega
  have hlength := Bytes.length_ofNatBE (1 <<< (minor - 24)) argument
  rw [Head.read]
  simp only [hfirst, hmajor', hminor', if_neg (Nat.not_lt.2 hlow), if_pos hhigh]
  rw [if_neg (by simp), List.take_left' hlength, List.drop_left' hlength, Bytes.toNatBE_ofNatBE]

theorem Head.read_writeHead (hmajor : major < 8) (argument : Nat) (rest : Bytes) :
    ∃ width, Head.read (writeHead major argument ++ rest) =
      some (⟨major, width, some (argument % UInt64.size)⟩, rest) := by
  have hfits {limit : Nat} (hlt : argument < limit) (hle : limit ≤ UInt64.size) :
      argument % UInt64.size = argument % limit := by
    rw [Nat.mod_eq_of_lt hlt, Nat.mod_eq_of_lt (Nat.lt_of_lt_of_le hlt hle)]
  rw [writeHead]
  dsimp only
  split
  · rename_i hlt
    rw [hfits hlt (by decide), Nat.mod_eq_of_lt hlt]
    exact ⟨_, Head.read_short hmajor hlt⟩
  split
  · rename_i hlt
    rw [hfits hlt (by decide)]
    exact ⟨_, Head.read_long hmajor 24 (by decide) (by decide)⟩
  split
  · rename_i hlt
    rw [hfits hlt (by decide)]
    exact ⟨_, Head.read_long hmajor 25 (by decide) (by decide)⟩
  split
  · rename_i hlt
    rw [hfits hlt (by decide)]
    exact ⟨_, Head.read_long hmajor 26 (by decide) (by decide)⟩
  · exact ⟨_, Head.read_long hmajor 27 (by decide) (by decide)⟩

/-- What follows on heads that are written alike is alike. -/
theorem writeHead_append_inj (hmajor : major < 8) {a b : Nat} {x y : Bytes}
    (h : writeHead major a ++ x = writeHead major b ++ y) :
    a % UInt64.size = b % UInt64.size ∧ x = y := by
  obtain ⟨width, hread⟩ := Head.read_writeHead hmajor a x
  obtain ⟨width', hread'⟩ := Head.read_writeHead hmajor b y
  rw [h, hread', Option.some.injEq, Prod.mk.injEq, Head.mk.injEq, Option.some.injEq] at hread
  exact ⟨hread.1.2.2.symm, hread.2.symm⟩

/-! ## Written byte strings -/

theorem write_bytes_append_inj {a b x y : Bytes} {pieces pieces' : Bool}
    (ha : a.length < UInt64.size) (hb : b.length < UInt64.size)
    (h : (Item.bytes a pieces).write ++ x = (Item.bytes b pieces').write ++ y) :
    a = b ∧ x = y := by
  rw [Item.write, Item.write, List.append_assoc, List.append_assoc] at h
  obtain ⟨hlength, hrest⟩ := writeHead_append_inj (by decide) h
  rw [Nat.mod_eq_of_lt ha, Nat.mod_eq_of_lt hb] at hlength
  exact List.append_inj hrest hlength

theorem write_bytes_inj {a b : Bytes} {pieces pieces' : Bool}
    (h : (Item.bytes a pieces).write = (Item.bytes b pieces').write) : a = b := by
  rw [Item.write, Item.write] at h
  exact (writeHead_append_inj (by decide) h).2

/-! ## Byte strings that are read -/

theorem Head.length_le_of_read {head : Head} (h : Head.read bytes = some (head, rest)) :
    rest.length ≤ bytes.length := by
  cases bytes with
  | nil => cases h
  | cons b tail =>
    simp only [Head.read] at h
    split at h
    · cases h
      simp
    split at h
    · split at h
      · cases h
      · cases h
        rw [List.length_drop, List.length_cons]
        exact Nat.le_succ_of_le (Nat.sub_le ..)
    split at h
    · cases h
      simp
    · cases h

theorem length_of_takeContent {length : Nat} {content : Bytes}
    (h : takeContent length bytes = some (content, rest)) :
    content.length + rest.length = bytes.length := by
  rw [takeContent] at h
  split at h
  · cases h
  · cases h
    rw [List.length_take, List.length_drop]
    omega

theorem length_le_of_readChunks {fuel nested : Nat} {chunks : List Bytes}
    (h : readChunks major fuel nested bytes = some (chunks, rest)) :
    chunks.flatten.length + rest.length ≤ bytes.length := by
  induction fuel generalizing nested bytes chunks rest with
  | zero => cases h
  | succ fuel ih =>
    obtain ⟨⟨head, behind⟩, hhead, h⟩ := Option.bind_eq_some_iff.1 h
    have hbehind := Head.length_le_of_read hhead
    dsimp only at h
    split at h
    · split at h
      · split at h
        · cases h
          simpa using hbehind
        · exact Nat.le_trans (ih h) hbehind
      split at h
      · exact Nat.le_trans (ih h) hbehind
      · cases h
    · split at h
      · cases h
      obtain ⟨⟨chunk, tail⟩, hchunk, h⟩ := Option.bind_eq_some_iff.1 h
      obtain ⟨⟨others, final⟩, hothers, h⟩ := Option.bind_eq_some_iff.1 h
      have hcontent : chunk.length + tail.length = behind.length := length_of_takeContent hchunk
      have hfinal : others.flatten.length + final.length ≤ tail.length := ih hothers
      have hchunks : chunk :: others = chunks ∧ final = rest := by simpa using h
      rw [← hchunks.1, ← hchunks.2, List.flatten_cons, List.length_append]
      omega

/-- Whether a byte string, or one that an array starts with, has at most `limit` octets. -/
def Item.OpensWithin (limit : Nat) : Item → Prop
  | .bytes content _ => content.length ≤ limit
  | .array (.bytes content _ :: _) => content.length ≤ limit
  | _ => True

theorem Item.opensWithin_array {limit : Nat} {items : List Item}
    (h : ∀ first ∈ items.head?, first.OpensWithin limit) :
    (Item.array items).OpensWithin limit := by
  cases items with
  | nil => trivial
  | cons first rest =>
    have hfirst := h first rfl
    cases first <;> first | exact hfirst | trivial

theorem exists_readItem_of_readItems {fuel count : Nat} {items : List Item} {first : Item}
    (h : readItems fuel count bytes = some (items, rest)) (hfirst : first ∈ items.head?) :
    ∃ fewer < fuel, ∃ behind, readItem fewer bytes = some (first, behind) := by
  cases count with
  | zero =>
    rw [readItems] at h
    cases h
    cases hfirst
  | succ count =>
    cases fuel with
    | zero => simp [readItems] at h
    | succ fuel =>
      rw [readItems] at h
      obtain ⟨⟨item, behind⟩, hitem, h⟩ := Option.bind_eq_some_iff.1 h
      obtain ⟨⟨others, final⟩, -, h⟩ := Option.bind_eq_some_iff.1 h
      have hitems : item :: others = items ∧ final = rest := by simpa using h
      rw [← hitems.1] at hfirst
      cases hfirst
      exact ⟨fuel, Nat.lt_succ_self fuel, behind, hitem⟩

theorem exists_readItem_of_readUntilBreak {fuel : Nat} {items : List Item} {first : Item}
    (h : readUntilBreak fuel bytes = some (items, rest)) (hfirst : first ∈ items.head?) :
    ∃ fewer < fuel, ∃ behind, readItem fewer bytes = some (first, behind) := by
  cases fuel with
  | zero => simp [readUntilBreak] at h
  | succ fuel =>
    rw [readUntilBreak.eq_def] at h
    dsimp only at h
    split at h
    · cases h
      cases hfirst
    · obtain ⟨⟨item, behind⟩, hitem, h⟩ := Option.bind_eq_some_iff.1 h
      obtain ⟨⟨others, final⟩, -, h⟩ := Option.bind_eq_some_iff.1 h
      have hitems : item :: others = items ∧ final = rest := by simpa using h
      rw [← hitems.1] at hfirst
      cases hfirst
      exact ⟨fuel, Nat.lt_succ_self fuel, behind, hitem⟩

theorem Item.OpensWithin.mono {item : Item} {limit limit' : Nat} (h : item.OpensWithin limit)
    (hle : limit ≤ limit') : item.OpensWithin limit' := by
  unfold OpensWithin at h ⊢
  split at h
  · exact Nat.le_trans h hle
  · exact Nat.le_trans h hle
  · trivial

theorem opensWithin_of_leaf? {head : Head} {value limit : Nat} {item : Item}
    (h : leaf? head value = some item) : item.OpensWithin limit := by
  unfold leaf? at h
  split at h
  · cases h
    trivial
  · cases h
    trivial
  · split at h <;> cases h <;> trivial
  · cases h

theorem opensWithin_of_readItem {fuel : Nat} {item : Item}
    (h : readItem fuel bytes = some (item, rest)) : item.OpensWithin bytes.length := by
  induction fuel using Nat.strongRecOn generalizing bytes item rest with
  | ind fuel ih =>
    cases fuel with
    | zero => simp [readItem] at h
    | succ fuel =>
      rw [readItem] at h
      obtain ⟨⟨head, behind⟩, hhead, h⟩ := Option.bind_eq_some_iff.1 h
      have hbehind := Head.length_le_of_read hhead
      refine Item.OpensWithin.mono ?_ hbehind
      dsimp only at h
      -- One case for each kind of item; only strings and arrays have a byte string at the front.
      split at h
      · obtain ⟨⟨content, tail⟩, hcontent, h⟩ := Option.bind_eq_some_iff.1 h
        cases h
        exact Nat.le.intro (length_of_takeContent hcontent)
      · obtain ⟨⟨chunks, tail⟩, hchunks, h⟩ := Option.bind_eq_some_iff.1 h
        cases h
        exact Nat.le_trans (Nat.le_add_right ..) (length_le_of_readChunks hchunks)
      · obtain ⟨content, -, h⟩ := Option.bind_eq_some_iff.1 h
        obtain ⟨text, -, h⟩ := Option.bind_eq_some_iff.1 h
        cases h
        trivial
      · obtain ⟨chunks, -, h⟩ := Option.bind_eq_some_iff.1 h
        obtain ⟨text, -, h⟩ := Option.bind_eq_some_iff.1 h
        cases h
        trivial
      · obtain ⟨⟨items, tail⟩, hitems, h⟩ := Option.bind_eq_some_iff.1 h
        cases h
        refine Item.opensWithin_array fun first hfirst => ?_
        obtain ⟨fewer, hfewer, _, hread⟩ := exists_readItem_of_readItems hitems hfirst
        exact ih fewer (Nat.lt_succ_of_lt hfewer) hread
      · obtain ⟨⟨items, tail⟩, hitems, h⟩ := Option.bind_eq_some_iff.1 h
        cases h
        refine Item.opensWithin_array fun first hfirst => ?_
        obtain ⟨fewer, hfewer, _, hread⟩ := exists_readItem_of_readUntilBreak hitems hfirst
        exact ih fewer (Nat.lt_succ_of_lt hfewer) hread
      · obtain ⟨items, -, h⟩ := Option.bind_eq_some_iff.1 h
        obtain ⟨entries, -, h⟩ := Option.bind_eq_some_iff.1 h
        cases h
        trivial
      · obtain ⟨items, -, h⟩ := Option.bind_eq_some_iff.1 h
        obtain ⟨entries, -, h⟩ := Option.bind_eq_some_iff.1 h
        cases h
        trivial
      · obtain ⟨tagged, -, h⟩ := Option.bind_eq_some_iff.1 h
        cases h
        trivial
      · obtain ⟨leaf, hleaf, h⟩ := Option.bind_eq_some_iff.1 h
        cases h
        exact opensWithin_of_leaf? hleaf
      · cases h

theorem length_le_of_readWhole {content : Bytes} {pieces : Bool} {items : List Item}
    (h : Item.readWhole bytes = some (.array (.bytes content pieces :: items))) :
    content.length ≤ bytes.length := by
  obtain ⟨⟨item, rest⟩, hread, h⟩ := Option.bind_eq_some_iff.1 h
  dsimp only at h
  split at h
  · cases h
    exact opensWithin_of_readItem hread
  · cases h

end Cbor
end EnclaveRegistry
