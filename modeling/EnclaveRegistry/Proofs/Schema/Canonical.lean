import EnclaveRegistry.Proofs.Result
import EnclaveRegistry.Proofs.Schema.Record

/-! # Binary forms are canonical

Octets that are read as a value start with its binary form, so a value has one form only, and what
follows it is all that the octets may hold besides. A length or a tag that no form has is refused.
-/
namespace EnclaveRegistry

theorem Bytes.ofNatLE_toNatLE (bytes : Bytes) : ofNatLE bytes.length (toNatLE bytes) = bytes := by
  induction bytes with
  | nil => rfl
  | cons octet rest ih =>
    have hoctet := octet.toNat_lt
    have hlow : UInt8.ofNat (octet.toNat + 256 * toNatLE rest) = octet := by
      rw [← UInt8.toNat_inj, UInt8.toNat_ofNat']
      omega
    have hhigh : (octet.toNat + 256 * toNatLE rest) / 256 = toNatLE rest := by omega
    rw [toNatLE, List.length_cons, ofNatLE, hlow, hhigh, ih]

theorem Bytes.toNatLE_lt (bytes : Bytes) : toNatLE bytes < Nat.pow 256 bytes.length := by
  induction bytes with
  | nil => exact Nat.one_pos
  | cons octet rest ih =>
    have hoctet := octet.toNat_lt
    have hpow : Nat.pow 256 (rest.length + 1) = Nat.pow 256 rest.length * 256 := rfl
    rw [toNatLE, List.length_cons, hpow]
    omega

namespace Schema

/-! ## The parts of a binary form -/

theorem eq_of_takeNat {width value : Nat} {bytes rest : Bytes}
    (h : takeNat width bytes = .ok (value, rest)) :
    bytes = Bytes.ofNatLE width value ++ rest ∧ value < Nat.pow 256 width := by
  by_cases hlength : bytes.length < width
  · rw [takeNat, if_pos hlength] at h
    cases h
  · rw [takeNat, if_neg hlength] at h
    cases h
    have hwidth : (bytes.take width).length = width :=
      List.length_take_of_le (Nat.le_of_not_lt hlength)
    have hnumber := Bytes.ofNatLE_toNatLE (bytes.take width)
    have hlimit := Bytes.toNatLE_lt (bytes.take width)
    rw [hwidth] at hnumber hlimit
    exact ⟨by rw [hnumber, List.take_append_drop], hlimit⟩

theorem eq_of_takeNat_tag {tag : Nat} {bytes rest : Bytes}
    (h : takeNat 1 bytes = .ok (tag, rest)) : bytes = UInt8.ofNat tag :: rest :=
  (eq_of_takeNat h).1

theorem eq_of_takeContent {length : Nat} {bytes content rest : Bytes}
    (h : takeContent length bytes = .ok (content, rest)) :
    bytes = content ++ rest ∧ content.length = length := by
  by_cases hlength : bytes.length < length
  · rw [takeContent, if_pos hlength] at h
    cases h
  · rw [takeContent, if_neg hlength] at h
    cases h
    exact ⟨(List.take_append_drop ..).symm, List.length_take_of_le (Nat.le_of_not_lt hlength)⟩

theorem eq_of_takeNat_takeContent {length : Nat} {bytes middle content rest : Bytes}
    (hlength : takeNat 8 bytes = .ok (length, middle))
    (hcontent : takeContent length middle = .ok (content, rest)) :
    bytes = packContent content ++ rest ∧ content.length < UInt64.size := by
  obtain ⟨rfl, hlimit⟩ := eq_of_takeNat hlength
  obtain ⟨rfl, rfl⟩ := eq_of_takeContent hcontent
  exact ⟨by rw [packContent, List.append_assoc], hlimit⟩

theorem eq_of_takeText {bytes rest : Bytes} {text : String}
    (h : takeText bytes = .ok (text, rest)) :
    bytes = packContent (Utf8.encode text) ++ rest ∧
      (Utf8.encode text).length < UInt64.size := by
  obtain ⟨⟨length, middle⟩, hlength, h⟩ := Result.bind_eq_ok_iff.1 h
  obtain ⟨⟨content, behind⟩, hcontent, h⟩ := Result.bind_eq_ok_iff.1 h
  dsimp only at hcontent h
  cases htext : Utf8.decode? content with
  | none =>
    rw [htext] at h
    cases h
  | some found =>
    rw [htext] at h
    cases h
    rw [Utf8.encode_of_decode? htext]
    exact eq_of_takeNat_takeContent hlength hcontent

theorem eq_of_takeAll {α : Type} {take : Bytes → Except RecordFault (α × Bytes)}
    {pack : α → Bytes} {P : α → Prop}
    (htake : ∀ {bytes value rest}, take bytes = .ok (value, rest) →
      bytes = pack value ++ rest ∧ P value)
    {count : Nat} {bytes rest : Bytes} {values : List α}
    (h : takeAll take count bytes = .ok (values, rest)) :
    bytes = values.flatMap pack ++ rest ∧ values.length = count ∧ ∀ value ∈ values, P value := by
  induction count generalizing bytes values with
  | zero =>
    cases h
    exact ⟨rfl, rfl, by simp⟩
  | succ count ih =>
    obtain ⟨⟨head, middle⟩, hhead, h⟩ := Result.bind_eq_ok_iff.1 h
    obtain ⟨⟨tail, behind⟩, htail, h⟩ := Result.bind_eq_ok_iff.1 h
    cases h
    obtain ⟨rfl, hP⟩ := htake hhead
    obtain ⟨rfl, rfl, hPs⟩ := ih htail
    exact ⟨by rw [List.flatMap_cons, List.append_assoc], rfl, List.forall_mem_cons.2 ⟨hP, hPs⟩⟩

theorem Width.eq_of_take {width : Width} {bytes rest : Bytes} {value : width.Carrier}
    (h : width.take bytes = .ok (value, rest)) : bytes = width.pack value ++ rest := by
  cases width with
  | four =>
    obtain ⟨⟨number, behind⟩, hnumber, h⟩ := Result.bind_eq_ok_iff.1 h
    cases h
    obtain ⟨rfl, hlimit⟩ := eq_of_takeNat hnumber
    rw [Width.pack, UInt32.toNat_ofNat_of_lt' hlimit]
  | eight =>
    obtain ⟨⟨number, behind⟩, hnumber, h⟩ := Result.bind_eq_ok_iff.1 h
    cases h
    obtain ⟨rfl, hlimit⟩ := eq_of_takeNat hnumber
    rw [Width.pack, UInt64.toNat_ofNat_of_lt' hlimit]

/-! ## Whole values -/

mutual

/-- Whether four octets can number the names of every choice in a shape. -/
def Shape.FewChoices : Shape → Prop
  | .choice names => names.length ≤ UInt32.size
  | .optional item => item.FewChoices
  | .list item => item.FewChoices
  | .record _ _ fields => fields.FewChoices
  | _ => True

def Fields.FewChoices : Fields → Prop
  | .nil => True
  | .cons _ shape rest => shape.FewChoices ∧ rest.FewChoices

end

-- The recursion is that of the readers. Each case gives the taken part and its bounds at once, since
-- a length fits its octets only because it was read from them.
mutual

/-- Octets that a value is taken from start with its binary form. -/
theorem Shape.eq_of_take : (shape : Shape) → shape.FewChoices → {bytes rest : Bytes} →
    {value : shape.Carrier} → shape.take bytes = .ok (value, rest) →
      bytes = shape.pack value ++ rest ∧ shape.Fits value
  | .bytes _, _, _, _, value, h => by
    rw [Shape.take, Result.bind_eq_ok_iff] at h
    obtain ⟨⟨length, middle⟩, hlength, hcontent⟩ := h
    rw [Shape.pack]
    exact eq_of_takeNat_takeContent hlength hcontent
  | .text, _, _, _, value, h => by
    rw [Shape.take] at h
    rw [Shape.pack]
    exact eq_of_takeText h
  | .flag, _, _, _, value, h => by
    rw [Shape.take, Result.bind_eq_ok_iff] at h
    obtain ⟨⟨tag, middle⟩, htag, h⟩ := h
    obtain rfl := eq_of_takeNat_tag htag
    dsimp only at h
    by_cases hfalse : tag = 0
    · rw [if_pos hfalse] at h
      cases h
      subst hfalse
      exact ⟨rfl, trivial⟩
    by_cases htrue : tag = 1
    · rw [if_neg hfalse, if_pos htrue] at h
      cases h
      subst htrue
      exact ⟨rfl, trivial⟩
    · rw [if_neg hfalse, if_neg htrue] at h
      cases h
  | .natural width, _, _, _, value, h => by
    rw [Shape.take] at h
    rw [Shape.pack]
    exact ⟨Width.eq_of_take h, trivial⟩
  | .choice names, hfew, _, _, value, h => by
    rw [Shape.take, Result.bind_eq_ok_iff] at h
    obtain ⟨⟨index, middle⟩, hindex, h⟩ := h
    obtain ⟨rfl, -⟩ := eq_of_takeNat hindex
    dsimp only at h
    by_cases hlt : index < names.length
    · rw [dif_pos hlt] at h
      cases h
      rw [Shape.pack]
      exact ⟨rfl, hfew⟩
    · rw [dif_neg hlt] at h
      cases h
  | .optional item, hfew, _, _, value, h => by
    rw [Shape.take, Result.bind_eq_ok_iff] at h
    obtain ⟨⟨tag, middle⟩, htag, h⟩ := h
    obtain rfl := eq_of_takeNat_tag htag
    dsimp only at h
    by_cases hnone : tag = 0
    · rw [if_pos hnone] at h
      cases h
      subst hnone
      rw [Shape.pack]
      exact ⟨rfl, by simp [Shape.Fits]⟩
    by_cases hsome : tag = 1
    · rw [if_neg hnone, if_pos hsome] at h
      obtain ⟨⟨content, behind⟩, hcontent, h⟩ := Result.bind_eq_ok_iff.1 h
      cases h
      subst hsome
      obtain ⟨rfl, hfits⟩ := item.eq_of_take hfew hcontent
      rw [Shape.pack]
      exact ⟨rfl, by simpa [Shape.Fits] using hfits⟩
    · rw [if_neg hnone, if_neg hsome] at h
      cases h
  | .list item, hfew, _, _, values, h => by
    rw [Shape.take, Result.bind_eq_ok_iff] at h
    obtain ⟨⟨count, middle⟩, hcount, h⟩ := h
    obtain ⟨rfl, hlimit⟩ := eq_of_takeNat hcount
    obtain ⟨rfl, rfl, hfits⟩ := eq_of_takeAll (item.eq_of_take hfew) h
    rw [Shape.pack, List.append_assoc]
    exact ⟨rfl, hlimit, hfits⟩
  | .record _ _ fields, hfew, _, _, values, h => by
    rw [Shape.take] at h
    rw [Shape.pack]
    exact fields.eq_of_take hfew h

theorem Fields.eq_of_take : (fields : Fields) → fields.FewChoices → {bytes rest : Bytes} →
    {values : fields.Carrier} → fields.take bytes = .ok (values, rest) →
      bytes = fields.pack values ++ rest ∧ fields.Fits values
  | .nil, _, _, _, _, h => by
    rw [Fields.take] at h
    cases h
    exact ⟨rfl, trivial⟩
  | .cons _ shape fields, hfew, _, _, (value, values), h => by
    rw [Fields.take, Result.bind_eq_ok_iff] at h
    obtain ⟨⟨first, middle⟩, hfirst, h⟩ := h
    obtain ⟨⟨others, behind⟩, hothers, h⟩ := Result.bind_eq_ok_iff.1 h
    cases h
    obtain ⟨rfl, hfits⟩ := shape.eq_of_take hfew.1 hfirst
    obtain ⟨rfl, hfitsOthers⟩ := fields.eq_of_take hfew.2 hothers
    rw [Fields.pack, List.append_assoc]
    exact ⟨rfl, hfits, hfitsOthers⟩

end

variable {α : Type} [Described α]

/-- Octets are read as a value exactly if they start with its binary form. -/
theorem ofRecord_eq_ok_iff (hfew : (shapeOf α).FewChoices) {bytes : Bytes} {value : α} :
    ofRecord α bytes = .ok value ↔ Fits value ∧ toRecord value <+: bytes := by
  constructor
  · intro h
    obtain ⟨⟨content, rest⟩, hcontent, h⟩ := Result.bind_eq_ok_iff.1 h
    cases h
    obtain ⟨rfl, hfits⟩ := (shapeOf α).eq_of_take hfew hcontent
    rw [Fits, toRecord, Described.view_build]
    exact ⟨hfits, List.prefix_append ..⟩
  · rintro ⟨hfits, rest, rfl⟩
    exact ofRecord_toRecord_append value hfits rest

/-- No binary form of a value starts with that of another one. -/
theorem toRecord_prefix_iff {a b : α} (ha : Fits a) (hb : Fits b) :
    toRecord a <+: toRecord b ↔ a = b := by
  constructor
  · rintro ⟨rest, hrest⟩
    have hread : ofRecord α (toRecord b) = .ok a := by
      rw [← hrest]
      exact ofRecord_toRecord_append a ha rest
    rw [ofRecord_toRecord hb] at hread
    exact (Except.ok.inj hread).symm
  · rintro rfl
    exact List.prefix_rfl

theorem toRecord_inj {a b : α} (ha : Fits a) (hb : Fits b) : toRecord a = toRecord b ↔ a = b := by
  constructor
  · intro h
    exact (toRecord_prefix_iff ha hb).1 (h ▸ List.prefix_rfl)
  · exact congrArg toRecord

theorem eq_of_map_toRecord {a b : Option α} (ha : ∀ value ∈ a, Fits value)
    (hb : ∀ value ∈ b, Fits value) (h : a.map toRecord = b.map toRecord) : a = b := by
  cases a with
  | none => exact (Option.map_eq_none_iff.1 h.symm).symm
  | some value =>
    obtain ⟨other, rfl, heq⟩ := Option.map_eq_some_iff.1 h.symm
    rw [(toRecord_inj (hb other rfl) (ha value rfl)).1 heq]

end Schema
end EnclaveRegistry
