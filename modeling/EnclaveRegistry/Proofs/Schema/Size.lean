import EnclaveRegistry.Proofs.Json.Size
import EnclaveRegistry.Proofs.Schema.Field
import EnclaveRegistry.Proofs.Text.Base64
import EnclaveRegistry.Proofs.Text.Hex

/-! # Values are no longer than the text that they are read from

Each byte string and each text in a value is read from a string of the tree, and so has no more
octets than the whole text.
-/
namespace EnclaveRegistry.Schema

open Json (Tree RawText ListEnd)
open Result (bind_eq_ok_iff)

variable {limit : Nat}

mutual

/-- Whether the byte strings and texts in a value have at most `limit` octets. -/
def Shape.Within (limit : Nat) : (shape : Shape) → shape.Carrier → Prop
  | .bytes _, value => value.length ≤ limit
  | .text, value => (Utf8.encode value).length ≤ limit
  | .flag, _ => True
  | .natural _, _ => True
  | .choice _, _ => True
  | .optional item, value => ∀ content ∈ value, item.Within limit content
  | .list item, values => ∀ value ∈ values, item.Within limit value
  | .record _ _ fields, values => fields.Within limit values

def Fields.Within (limit : Nat) : (fields : Fields) → fields.Carrier → Prop
  | .nil, _ => True
  | .cons _ shape rest, (value, values) => shape.Within limit value ∧ rest.Within limit values

end

def Fields.SlotsWithin (limit : Nat) : (fields : Fields) → fields.Slots → Prop
  | .nil, _ => True
  | .cons _ shape rest, (slot, slots) =>
    (∀ value ∈ slot, shape.Within limit value) ∧ rest.SlotsWithin limit slots

abbrev TextsWithin (limit : Nat) (tree : Tree) : Prop := tree.TextsAre fun raw => raw.width ≤ limit

/-! ## Strings -/

theorem length_le_of_readText {tree : Tree} {text : String} (h : readText tree = .ok text)
    (htree : TextsWithin limit tree) : (Utf8.encode text).length ≤ limit := by
  obtain ⟨raw, rfl, hcontent⟩ := readText_eq_ok_iff.1 h
  exact Nat.le_trans (RawText.length_content_le hcontent) (Json.Tree.textsAre_text.1 htree)

theorem ByteForm.length_le_of_read {form : ByteForm} {text : String} {bytes : Bytes}
    (h : form.read text = .ok bytes) : bytes.length ≤ (Utf8.encode text).length := by
  cases form with
  | hex =>
    rw [ByteForm.read] at h
    split at h
    · cases h
      exact Hex.length_le_of_parse ‹_›
    · cases h
  | base64 =>
    rw [ByteForm.read] at h
    split at h
    · cases h
      exact Base64.length_le_of_decode ‹_›
    · cases h

/-! ## Lists and records -/

theorem forall_of_readItems {α : Type} {read : Tree → Reading α} {p : α → Prop} {index : Nat}
    {items : List Tree} {values : List α} (h : readItems read index items = .ok values)
    (hread : ∀ tree ∈ items, ∀ value, read tree = .ok value → p value) :
    ∀ value ∈ values, p value := by
  induction items generalizing index values with
  | nil =>
    cases h
    nofun
  | cons tree rest ih =>
    obtain ⟨head, hhead, h⟩ := bind_eq_ok_iff.1 h
    obtain ⟨tail, htail, h⟩ := bind_eq_ok_iff.1 h
    cases h
    refine List.forall_mem_cons.2 ⟨?_, ?_⟩
    · exact hread tree List.mem_cons_self head (within_eq_ok_iff.1 hhead)
    · exact ih htail fun other hmem => hread other (List.mem_cons_of_mem tree hmem)

theorem Fields.slotsWithin_noSlots : (fields : Fields) → fields.SlotsWithin limit fields.noSlots
  | .nil => trivial
  | .cons _ _ rest => ⟨nofun, rest.slotsWithin_noSlots⟩

theorem Shape.within_of_leftOut? {shape : Shape} {value : shape.Carrier}
    (h : shape.leftOut? = some value) : shape.Within limit value := by
  cases shape with
  | optional item =>
    cases h
    nofun
  | _ => cases h

theorem Fields.within_of_settle : {fields : Fields} → {slots : fields.Slots} →
    {values : fields.Carrier} → fields.settle slots = .ok values →
      fields.SlotsWithin limit slots → fields.Within limit values
  | .nil, _, _, _, _ => trivial
  | .cons name shape rest, (slot, slots), (value, values), h, ⟨hslot, hslots⟩ => by
    rw [Fields.settle] at h
    cases hvalue : slot.or shape.leftOut? with
    | none =>
      rw [hvalue] at h
      cases h
    | some found =>
      rw [hvalue] at h
      obtain ⟨others, hothers, h⟩ := bind_eq_ok_iff.1 h
      cases h
      refine ⟨?_, Fields.within_of_settle hothers hslots⟩
      rcases Option.or_eq_some_iff.1 hvalue with hvalue | ⟨-, hvalue⟩
      · exact hslot value hvalue
      · exact Shape.within_of_leftOut? hvalue

/-- What the members of an object preserve of the slots, if each preserves it. -/
theorem invariant_of_readMembers {σ : Type} {strict : Bool} {known : List String}
    {fill : String → Tree → σ → Reading (Option σ)} {invariant : σ → Prop} {before after : σ}
    {members : List (RawText × Tree)} (h : readMembers strict known fill before members = .ok after)
    (hbefore : invariant before)
    (hfill : ∀ member ∈ members, ∀ {name slots slots'},
      fill name member.2 slots = .ok (some slots') → invariant slots → invariant slots') :
    invariant after := by
  induction members generalizing before with
  | nil =>
    cases h
    exact hbefore
  | cons member rest ih =>
    have hrest := List.forall_mem_of_forall_mem_cons hfill
    obtain ⟨key, tree⟩ := member
    obtain ⟨name, -, h⟩ := bind_eq_ok_iff.1 h
    obtain ⟨answer, hanswer, h⟩ := bind_eq_ok_iff.1 h
    cases answer with
    | some slots => exact ih h (hfill _ List.mem_cons_self hanswer hbefore) hrest
    | none =>
      cases strict with
      | true => cases h
      | false =>
        obtain ⟨-, -, h⟩ := bind_eq_ok_iff.1 h
        exact ih h hbefore hrest

-- For an object the invariant is on the slots, since a member may fill any of them.
mutual

theorem Shape.within_of_read : {shape : Shape} → {tree : Tree} → {value : shape.Carrier} →
    shape.read tree = .ok value → TextsWithin limit tree → shape.Within limit value
  | .bytes form, tree, (value : Bytes), h, htree => by
    rw [Shape.read] at h
    obtain ⟨text, htext, h⟩ := bind_eq_ok_iff.1 h
    exact Nat.le_trans (ByteForm.length_le_of_read h) (length_le_of_readText htext htree)
  | .text, tree, _, h, htree => by
    rw [Shape.read] at h
    exact length_le_of_readText h htree
  | .flag, _, _, _, _ => trivial
  | .natural _, _, _, _, _ => trivial
  | .choice _, _, _, _, _ => trivial
  | .optional item, tree, (value : Option item.Carrier), h, htree => by
    cases value with
    | none => nofun
    | some inner =>
      intro content hcontent
      cases hcontent
      exact Shape.within_of_read (Shape.read_of_read_optional h) htree
  | .list item, tree, (values : List item.Carrier), h, htree => by
    cases tree with
    | list items ending =>
      rw [Shape.read] at h
      obtain ⟨found, hfound, h⟩ := bind_eq_ok_iff.1 h
      obtain ⟨-, -, h⟩ := bind_eq_ok_iff.1 h
      cases h
      exact forall_of_readItems hfound fun tree hmem value hvalue =>
        Shape.within_of_read hvalue (Json.Tree.textsAre_list.1 htree tree hmem)
    | _ => exact absurd h refuse_ne_ok
  | .record name strict fields, tree, values, h, htree => by
    cases tree with
    | object members ending =>
      rw [Shape.read] at h
      obtain ⟨slots, hslots, h⟩ := bind_eq_ok_iff.1 h
      obtain ⟨-, -, h⟩ := bind_eq_ok_iff.1 h
      refine Fields.within_of_settle h
        (invariant_of_readMembers hslots fields.slotsWithin_noSlots ?_)
      intro member hmem name slots slots' hfill hbefore
      exact Fields.within_of_fill hfill (Json.Tree.textsAre_object.1 htree member hmem) hbefore
    | list items ending =>
      rw [Shape.read] at h
      exact Fields.within_of_readPositional h (Json.Tree.textsAre_list.1 htree)
    | _ => exact absurd h refuse_ne_ok

theorem Fields.within_of_fill : {fields : Fields} → {name : String} → {tree : Tree} →
    {before after : fields.Slots} → fields.fill name tree before = .ok (some after) →
      TextsWithin limit tree → fields.SlotsWithin limit before → fields.SlotsWithin limit after
  | .nil, _, _, _, _, h, _, _ => by cases h
  | .cons field shape rest, name, tree, (slot, slots), after, h, htree, ⟨hslot, hslots⟩ => by
    by_cases heq : name = field
    · rw [Fields.fill, if_pos heq] at h
      split at h
      · cases h
      · obtain ⟨value, hvalue, h⟩ := bind_eq_ok_iff.1 h
        cases h
        refine ⟨fun other hother => ?_, hslots⟩
        cases hother
        exact Shape.within_of_read (within_eq_ok_iff.1 hvalue) htree
    · rw [Fields.fill, if_neg heq] at h
      obtain ⟨answer, hanswer, h⟩ := bind_eq_ok_iff.1 h
      cases answer with
      | none => cases h
      | some filled =>
        cases h
        exact ⟨hslot, Fields.within_of_fill hanswer htree hslots⟩

theorem Fields.within_of_readPositional : {fields : Fields} → {record : String} →
    {size index : Nat} → {items : List Tree} → {ending : ListEnd} → {values : fields.Carrier} →
      fields.readPositional record size index items ending = .ok values →
        (∀ tree ∈ items, TextsWithin limit tree) → fields.Within limit values
  | .nil, _, _, _, _, _, _, _, _ => trivial
  | .cons name shape rest, record, size, index, items, ending, (value, values), h, hitems => by
    cases items with
    | nil =>
      rw [Fields.readPositional] at h
      obtain ⟨-, -, h⟩ := bind_eq_ok_iff.1 h
      cases hvalue : shape.leftOut? with
      | none =>
        rw [hvalue] at h
        cases h
      | some found =>
        rw [hvalue] at h
        obtain ⟨others, hothers, h⟩ := bind_eq_ok_iff.1 h
        cases h
        exact ⟨Shape.within_of_leftOut? hvalue, Fields.within_of_readPositional hothers hitems⟩
    | cons tree items =>
      obtain ⟨htree, hrest⟩ := List.forall_mem_cons.1 hitems
      rw [Fields.readPositional] at h
      obtain ⟨found, hfound, h⟩ := bind_eq_ok_iff.1 h
      obtain ⟨others, hothers, h⟩ := bind_eq_ok_iff.1 h
      cases h
      exact ⟨Shape.within_of_read (within_eq_ok_iff.1 hfound) htree,
        Fields.within_of_readPositional hothers hrest⟩

end

/-- What a text is read as has no byte string that is longer than the text. -/
theorem within_of_ofJson {α : Type} [Described α] {text : Bytes} {value : α}
    (h : ofJson α text = .ok value) : (shapeOf α).Within text.length (Described.view value) :=
  Shape.within_of_read (ofJson_eq_ok_iff.1 h).1 (Json.Document.textsAre_read text)

end EnclaveRegistry.Schema
