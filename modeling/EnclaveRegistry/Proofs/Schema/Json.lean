import EnclaveRegistry.Proofs.Json.Tree
import EnclaveRegistry.Proofs.Result
import EnclaveRegistry.Proofs.Text.Base64
import EnclaveRegistry.Schema.Json
import Mathlib.Data.List.Nodup

/-! # JSON forms are read back

A value is read back from its compact JSON form and from the one over lines, if its shape tells
its values apart: no record has two fields and no choice two names that are equal, and what may be
left out is not itself optional.
-/
namespace EnclaveRegistry.Schema

open Json (Tree RawText ItemsWritten MembersWritten)

mutual

/-- Whether the JSON forms of different values of a shape are told apart. -/
def Shape.Unambiguous : Shape → Prop
  | .bytes _ => True
  | .text => True
  | .flag => True
  | .natural _ => True
  | .choice names => names.Nodup
  | .optional item => (∀ inner, item ≠ .optional inner) ∧ item.Unambiguous
  | .list item => item.Unambiguous
  | .record _ _ fields => fields.names.Nodup ∧ fields.Unambiguous

def Fields.Unambiguous : Fields → Prop
  | .nil => True
  | .cons _ shape rest => shape.Unambiguous ∧ rest.Unambiguous

end

/-! ## Values are written as trees that are read back -/

mutual

theorem Shape.tree_isWritten : (shape : Shape) → (value : shape.Carrier) →
    (shape.tree value).IsWritten
  | .bytes form, (value : Bytes) => by
    rw [Shape.tree]
    exact ⟨form.write value, rfl⟩
  | .text, (value : String) => by
    rw [Shape.tree]
    exact ⟨Utf8.encode value, rfl⟩
  | .flag, _ => trivial
  | .natural width, value => by
    rw [Shape.tree]
    exact ⟨width.toNat value, rfl⟩
  | .choice names, (value : Fin names.length) => by
    rw [Shape.tree]
    exact ⟨Utf8.encode (names.get value), rfl⟩
  | .optional _, none => trivial
  | .optional item, some value => by
    rw [Shape.tree]
    exact item.tree_isWritten value
  | .list item, (values : List item.Carrier) => by
    rw [Shape.tree]
    refine ⟨Json.itemsWritten_iff.2 fun tree htree => ?_, rfl⟩
    obtain ⟨value, -, rfl⟩ := List.mem_map.1 htree
    exact item.tree_isWritten value
  | .record _ _ fields, values => by
    rw [Shape.tree]
    exact ⟨fields.members_written values, rfl⟩

theorem Fields.members_written : (fields : Fields) → (values : fields.Carrier) →
    MembersWritten (fields.members values)
  | .nil, _ => trivial
  | .cons name shape rest, (value, values) => by
    rw [Fields.members]
    exact ⟨⟨Utf8.encode name, rfl⟩, shape.tree_isWritten value, rest.members_written values⟩

end

theorem Shape.tree_ne_null {shape : Shape} (h : ∀ inner, shape ≠ .optional inner)
    (value : shape.Carrier) : shape.tree value ≠ .null := by
  cases shape with
  | optional inner => exact absurd rfl (h inner)
  | _ => simp [Shape.tree]

/-! ## Values of the simple shapes -/

theorem contentOf_ofString (text : String) : contentOf (.ofString text) = .ok text := by
  rw [contentOf, RawText.content_ofString]

theorem ByteForm.exists_encode_eq (form : ByteForm) (bytes : Bytes) :
    ∃ text, Utf8.encode text = form.write bytes := by
  cases form with
  | hex => exact Utf8.exists_encode_eq fun _ => Hex.toNat_lt_of_mem_digits
  | base64 => exact Utf8.exists_encode_eq fun _ => Base64.toNat_lt_of_mem_encode

theorem ByteForm.read_of_encode_eq {form : ByteForm} {bytes : Bytes} {text : String}
    (h : Utf8.encode text = form.write bytes) : form.read text = .ok bytes := by
  cases form with
  | hex => rw [ByteForm.read, h, ByteForm.write, Hex.parse_digits]
  | base64 => rw [ByteForm.read, h, ByteForm.write, Base64.decode_encode]

theorem Width.read_ofNat (width : Width) (value : width.Carrier) :
    width.read (.numeral (.ofNat (width.toNat value))) = .ok value := by
  cases width with
  | four =>
    have hlimit : UInt32.toNat value < UInt64.size :=
      Nat.lt_trans (UInt32.toNat_lt value) (by decide)
    have hvalue : Width.four.ofNat? (UInt32.toNat value) = some value := by
      rw [Width.ofNat?, if_pos (UInt32.toNat_lt value), UInt32.ofNat_toNat]
    rw [Width.read, Width.toNat, numberOf, Json.Numeral.number_ofNat hlimit]
    simp only [Result.ok_bind, hvalue]
  | eight =>
    have hlimit : UInt64.toNat value < UInt64.size := UInt64.toNat_lt value
    have hvalue : Width.eight.ofNat? (UInt64.toNat value) = some value := by
      rw [Width.ofNat?, if_pos hlimit, UInt64.ofNat_toNat]
    rw [Width.read, Width.toNat, numberOf, Json.Numeral.number_ofNat hlimit]
    simp only [Result.ok_bind, hvalue]

theorem readChoice_get {names : List String} (h : names.Nodup) (choice : Fin names.length) :
    readChoice names (names.get choice) = .ok choice := by
  have hindex : names.idxOf (names.get choice) = choice := List.get_idxOf h choice
  have hlt : names.idxOf (names.get choice) < names.length := hindex ▸ choice.isLt
  rw [readChoice, dif_pos hlt]
  exact congrArg Except.ok (Fin.ext hindex)

theorem readItems_map {α : Type} {read : Tree → Reading α} {tree : α → Tree} {values : List α}
    (h : ∀ value ∈ values, read (tree value) = .ok value) (index : Nat) :
    readItems read index (values.map tree) = .ok values := by
  induction values generalizing index with
  | nil => rfl
  | cons value values ih =>
    have htail := ih (fun other hother => h other (List.mem_cons_of_mem value hother)) (index + 1)
    rw [List.map_cons, readItems, h value List.mem_cons_self, htail]
    rfl

/-! ## Members of a record -/

def Fields.filled : (fields : Fields) → fields.Carrier → fields.Slots
  | .nil, _ => ()
  | .cons _ _ rest, (value, values) => (some value, rest.filled values)

theorem Fields.settle_filled : (fields : Fields) → (values : fields.Carrier) →
    fields.settle (fields.filled values) = .ok values
  | .nil, _ => rfl
  | .cons _ _ rest, (_, values) => by
    rw [Fields.settle, Fields.filled, rest.settle_filled values]
    rfl

theorem Fields.fill_cons_of_ne {name key : String} {shape : Shape} {rest : Fields}
    (h : key ≠ name) (tree : Tree) (slot : Option shape.Carrier) (slots : rest.Slots) :
    (Fields.cons name shape rest).fill key tree (slot, slots) =
      (Option.map fun slots => (slot, slots)) <$> rest.fill key tree slots := by
  rw [Fields.fill, if_neg h]
  cases rest.fill key tree slots with
  | error failure => rfl
  | ok slots => cases slots <;> rfl

/-- Members without the name of the first field are read by the fields behind it. -/
theorem readMembers_cons {strict : Bool} {known : List String} {name : String} {shape : Shape}
    {rest : Fields} (slot : Option shape.Carrier) (slots : rest.Slots)
    {members : List (RawText × Tree)} (h : ∀ member ∈ members, contentOf member.1 ≠ .ok name) :
    readMembers strict known (Fields.cons name shape rest).fill (slot, slots) members =
      (fun slots => (slot, slots)) <$> readMembers strict known rest.fill slots members := by
  induction members generalizing slots with
  | nil => rfl
  | cons member members ih =>
    obtain ⟨key, tree⟩ := member
    obtain ⟨hkey, hmembers⟩ := List.forall_mem_cons.1 h
    rw [readMembers, readMembers]
    cases hcontent : contentOf key with
    | error failure => rfl
    | ok found =>
      have hne : found ≠ name := fun heq => hkey (heq ▸ hcontent)
      simp only [Result.ok_bind, Fields.fill_cons_of_ne hne]
      cases hfill : rest.fill found tree slots with
      | error failure => rfl
      | ok answer =>
        cases answer with
        | some slots => exact ih slots hmembers
        | none =>
          cases strict with
          | true => rfl
          | false =>
            have hskipped := ih slots hmembers
            cases tree.skipFault? with
            | none => exact hskipped
            | some fault => rfl

theorem Fields.contentOf_of_mem_members : (fields : Fields) → (values : fields.Carrier) →
    ∀ member ∈ fields.members values, ∃ name ∈ fields.names, contentOf member.1 = .ok name
  | .nil, _, _, h => by simp [Fields.members] at h
  | .cons name shape rest, (value, values), member, h => by
    rw [Fields.members] at h
    rcases List.mem_cons.1 h with rfl | h
    · exact ⟨name, List.mem_cons_self, contentOf_ofString name⟩
    · obtain ⟨other, hother, hcontent⟩ := rest.contentOf_of_mem_members values member h
      exact ⟨other, List.mem_cons_of_mem name hother, hcontent⟩

/-! ## Whole values -/

mutual

/-- A value is read back from its tree. -/
theorem Shape.read_tree : (shape : Shape) → shape.Unambiguous → (value : shape.Carrier) →
    shape.read (shape.tree value) = .ok value
  | .bytes form, _, (value : Bytes) => by
    obtain ⟨text, htext⟩ := form.exists_encode_eq value
    have hcontent : contentOf (.ofBytes (form.write value)) = .ok text := by
      rw [← htext]
      exact contentOf_ofString text
    rw [Shape.tree, Shape.read, readText, hcontent]
    exact ByteForm.read_of_encode_eq htext
  | .text, _, (value : String) => by
    rw [Shape.tree, Shape.read, readText, contentOf_ofString]
  | .flag, _, (value : Bool) => by
    rw [Shape.tree, Shape.read, readFlag]
  | .natural width, _, value => by
    rw [Shape.tree, Shape.read, width.read_ofNat]
  | .choice names, h, (value : Fin names.length) => by
    rw [Shape.tree, Shape.read, readChoiceTree, contentOf_ofString]
    exact readChoice_get h value
  | .optional _, _, none => by
    rw [Shape.tree, Shape.read]
  | .optional item, ⟨hitem, h⟩, some value => by
    have hnull := Shape.tree_ne_null hitem value
    have hvalue := item.read_tree h value
    rw [Shape.tree, Shape.read, hvalue]
    · rfl
    · exact hnull
  | .list item, h, (values : List item.Carrier) => by
    rw [Shape.tree, Shape.read]
    have hitems := readItems_map (fun value (_ : value ∈ values) => item.read_tree h value) 0
    simp only [hitems]
    rfl
  | .record name strict fields, ⟨hnames, h⟩, values => by
    rw [Shape.tree, Shape.read]
    simp only [fields.read_members hnames h values, Result.ok_bind]
    exact fields.settle_filled values

theorem Fields.read_members : (fields : Fields) → fields.names.Nodup → fields.Unambiguous →
    (values : fields.Carrier) → (strict : Bool) → (known : List String) →
      readMembers strict known fields.fill fields.noSlots (fields.members values) =
        .ok (fields.filled values)
  | .nil, _, _, _, _, _ => rfl
  | .cons name shape rest, hnames, ⟨hshape, hrest⟩, (value, values), strict, known => by
    obtain ⟨hname, hnames⟩ := List.nodup_cons.1 hnames
    have hothers : ∀ member ∈ rest.members values, contentOf member.1 ≠ .ok name := by
      intro member hmember hcontent
      obtain ⟨other, hother, hfound⟩ := rest.contentOf_of_mem_members values member hmember
      rw [hcontent] at hfound
      exact hname (Except.ok.inj hfound ▸ hother)
    have hfill : (Fields.cons name shape rest).fill name (shape.tree value)
        (none, rest.noSlots) = .ok (some (some value, rest.noSlots)) := by
      rw [Fields.fill, if_pos rfl, shape.read_tree hshape value]
      rfl
    rw [Fields.members, readMembers, contentOf_ofString, Fields.noSlots]
    simp only [Result.ok_bind, hfill]
    rw [readMembers_cons _ _ hothers, rest.read_members hnames hrest values]
    rfl

end

/-! ## Texts -/

variable {α : Type} [Described α]

theorem treeOf_isWritten (value : α) : (treeOf value).IsWritten :=
  (shapeOf α).tree_isWritten (Described.view value)

/-- The two texts that are written for a value. -/
def Writes (text : Bytes) (value : α) : Prop := text = toJson value ∨ text = toPrettyJson value

theorem Writes.read {text : Bytes} {value : α} (h : Writes text value) :
    Json.Document.read text = ⟨treeOf value, false⟩ := by
  rcases h with rfl | rfl
  · exact Json.Document.read_compact (treeOf_isWritten value)
  · exact Json.Document.read_pretty (treeOf_isWritten value)

theorem Shape.readDocument_eq {shape : Shape} {text : Bytes} {tree : Tree}
    (h : Json.Document.read text = ⟨tree, false⟩) : shape.readDocument text = shape.read tree := by
  rw [Shape.readDocument, h]
  cases shape.read tree <;> rfl

theorem Writes.ofJson {text : Bytes} {value : α} (h : Writes text value)
    (hshape : (shapeOf α).Unambiguous) : ofJson α text = .ok value := by
  rw [Schema.ofJson, Shape.readDocument_eq h.read, treeOf, (shapeOf α).read_tree hshape]
  exact congrArg Except.ok (Described.build_view value)

end EnclaveRegistry.Schema
