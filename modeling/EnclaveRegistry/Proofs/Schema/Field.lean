import EnclaveRegistry.Proofs.Result
import EnclaveRegistry.Schema.Json
import Mathlib.Data.List.Nodup

/-! # Where the fields of a record are read from

An object that is read as a record has at most one member for each field, wherever it stands,
however its name is escaped and whatever other members there are. A field holds what that member is
read as, and a field without one is left out.
-/
namespace EnclaveRegistry.Schema

open Json (Tree RawText ListEnd ObjectEnd)
open Result (bind_eq_ok_iff)

def memberOf? (name : String) : List (RawText × Tree) → Option Tree
  | [] => none
  | (key, tree) :: rest =>
    match contentOf key with
    | .ok found => if found = name then some tree else memberOf? name rest
    | .error _ => memberOf? name rest

theorem memberOf?_cons_self {key : RawText} {name : String} (h : contentOf key = .ok name)
    (tree : Tree) (rest : List (RawText × Tree)) :
    memberOf? name ((key, tree) :: rest) = some tree := by
  simp [memberOf?, h]

theorem memberOf?_cons_of_ne {key : RawText} {name found : String} (h : contentOf key = .ok found)
    (hne : found ≠ name) (tree : Tree) (rest : List (RawText × Tree)) :
    memberOf? name ((key, tree) :: rest) = memberOf? name rest := by
  simp [memberOf?, h, hne]

/-- Whether slots are those before, as far as these are filled, and hold what the members of an
object are read as where they are not. -/
def Fields.FilledFrom (members : List (RawText × Tree)) :
    (fields : Fields) → (before after : fields.Slots) → Prop
  | .nil, _, _ => True
  | .cons name shape rest, (slot, slots), (slot', slots') =>
    slot'.map Except.ok = (slot.map Except.ok).or ((memberOf? name members).map shape.read) ∧
      rest.FilledFrom members slots slots'

theorem Fields.filledFrom_nil : (fields : Fields) → (slots : fields.Slots) →
    fields.FilledFrom [] slots slots
  | .nil, _ => trivial
  | .cons _ _ rest, (slot, slots) => by
    refine ⟨?_, rest.filledFrom_nil slots⟩
    simp [memberOf?]

theorem Fields.FilledFrom.skip {key : RawText} {found : String} (hkey : contentOf key = .ok found)
    (tree : Tree) {members : List (RawText × Tree)} : {fields : Fields} →
    {before after : fields.Slots} → found ∉ fields.names →
      fields.FilledFrom members before after →
        fields.FilledFrom ((key, tree) :: members) before after
  | .nil, _, _, _, _ => trivial
  | .cons name _ rest, (_, _), (_, _), hnames, ⟨hslot, hslots⟩ => by
    obtain ⟨hne, hrest⟩ := not_or.1 (mt List.mem_cons.2 hnames)
    refine ⟨?_, hslots.skip hkey tree hrest⟩
    rw [hslot, memberOf?_cons_of_ne hkey hne]

theorem Fields.not_mem_names_of_fill : {fields : Fields} → {found : String} → {tree : Tree} →
    {slots : fields.Slots} → fields.fill found tree slots = .ok none → found ∉ fields.names
  | .nil, _, _, _, _ => by simp [Fields.names]
  | .cons name shape rest, found, tree, (slot, slots), h => by
    by_cases heq : found = name
    · rw [Fields.fill, if_pos heq] at h
      split at h
      · cases h
      · obtain ⟨value, -, h⟩ := bind_eq_ok_iff.1 h
        cases h
    · rw [Fields.fill, if_neg heq] at h
      obtain ⟨answer, hanswer, h⟩ := bind_eq_ok_iff.1 h
      cases answer with
      | some slots => cases h
      | none =>
        have hrest := Fields.not_mem_names_of_fill hanswer
        simp [Fields.names, heq, hrest]

theorem Fields.FilledFrom.take {key : RawText} {found : String} {tree : Tree}
    (hkey : contentOf key = .ok found) {members : List (RawText × Tree)} : {fields : Fields} →
    {before mid after : fields.Slots} → fields.names.Nodup →
      fields.fill found tree before = .ok (some mid) → fields.FilledFrom members mid after →
        fields.FilledFrom ((key, tree) :: members) before after
  | .nil, _, _, _, _, h, _ => by cases h
  | .cons name shape rest, (slot, slots), mid, (slot', slots'), hnames, h, hfilled => by
    obtain ⟨hname, hnames⟩ := List.nodup_cons.1 hnames
    by_cases heq : found = name
    · subst heq
      rw [Fields.fill, if_pos rfl] at h
      cases slot with
      | some value => cases h
      | none =>
        obtain ⟨value, hvalue, h⟩ := bind_eq_ok_iff.1 h
        cases h
        obtain ⟨hslot, hslots⟩ := hfilled
        have hread : shape.read tree = .ok value := by
          cases hread : shape.read tree with
          | error failure => simp [hread, within] at hvalue
          | ok other => simpa [hread, within] using hvalue
        refine ⟨?_, hslots.skip hkey tree hname⟩
        rw [hslot, memberOf?_cons_self hkey]
        simp [hread]
    · rw [Fields.fill, if_neg heq] at h
      obtain ⟨answer, hanswer, h⟩ := bind_eq_ok_iff.1 h
      cases answer with
      | none => cases h
      | some filled =>
        cases h
        obtain ⟨hslot, hslots⟩ := hfilled
        refine ⟨?_, hslots.take hkey hnames hanswer⟩
        rw [hslot, memberOf?_cons_of_ne hkey heq]

/-- Whatever members an object has besides, its fields are read from the members with their
names. -/
theorem filledFrom_of_readMembers {strict : Bool} {known : List String} {fields : Fields}
    (hnames : fields.names.Nodup) {members : List (RawText × Tree)} {before after : fields.Slots}
    (h : readMembers strict known fields.fill before members = .ok after) :
    fields.FilledFrom members before after := by
  induction members generalizing before with
  | nil =>
    obtain rfl := Except.ok.inj h
    exact fields.filledFrom_nil _
  | cons member members ih =>
    obtain ⟨key, tree⟩ := member
    rw [readMembers] at h
    obtain ⟨found, hkey, h⟩ := bind_eq_ok_iff.1 h
    obtain ⟨answer, hanswer, h⟩ := bind_eq_ok_iff.1 h
    cases answer with
    | some mid => exact (ih h).take hkey hnames hanswer
    | none =>
      cases strict with
      | true => cases h
      | false =>
        obtain ⟨-, -, h⟩ := bind_eq_ok_iff.1 h
        exact (ih h).skip hkey tree (Fields.not_mem_names_of_fill hanswer)

/-! ## The first field -/

/-- Where the first field of a record is read from: the member with its name, or the first item. -/
def firstOf? (name : String) : Tree → Option Tree
  | .object members _ => memberOf? name members
  | .list items _ => items.head?
  | _ => none

theorem refuse_ne_ok {α : Type} {expected : String} {tree : Tree} {value : α} :
    refuse expected tree ≠ .ok value := by
  intro h
  obtain ⟨found, -, h⟩ := bind_eq_ok_iff.1 h
  cases h

variable {record name : String} {strict : Bool} {shape : Shape} {rest : Fields}

theorem Fields.settle_cons {slot : Option shape.Carrier} {slots : rest.Slots}
    {value : shape.Carrier} {values : rest.Carrier} (hrequired : shape.leftOut? = none)
    (h : (Fields.cons name shape rest).settle (slot, slots) = .ok (value, values)) :
    slot = some value := by
  rw [Fields.settle, hrequired, Option.or_none] at h
  cases slot with
  | none => cases h
  | some other =>
    obtain ⟨others, -, h⟩ := bind_eq_ok_iff.1 h
    cases h
    rfl

theorem Fields.readPositional_cons {size : Nat} {items : List Tree} {ending : ListEnd}
    {value : shape.Carrier} {values : rest.Carrier} (hrequired : shape.leftOut? = none)
    (h : (Fields.cons name shape rest).readPositional record size 0 items ending =
      .ok (value, values)) :
    ∃ tree, items.head? = some tree ∧ shape.read tree = .ok value := by
  cases items with
  | nil =>
    rw [Fields.readPositional] at h
    obtain ⟨-, -, h⟩ := bind_eq_ok_iff.1 h
    rw [hrequired] at h
    cases h
  | cons tree items =>
    rw [Fields.readPositional] at h
    obtain ⟨other, hother, h⟩ := bind_eq_ok_iff.1 h
    obtain ⟨others, -, h⟩ := bind_eq_ok_iff.1 h
    cases h
    refine ⟨tree, rfl, ?_⟩
    cases hread : shape.read tree with
    | error failure => simp [hread, within] at hother
    | ok other => simpa [hread, within] using hother

theorem exists_firstOf?_of_read {tree : Tree} {value : shape.Carrier} {values : rest.Carrier}
    (hnames : (Fields.cons name shape rest).names.Nodup) (hrequired : shape.leftOut? = none)
    (h : (Shape.record record strict (.cons name shape rest)).read tree = .ok (value, values)) :
    ∃ first, firstOf? name tree = some first ∧ shape.read first = .ok value := by
  cases tree with
  | object members ending =>
    rw [Shape.read] at h
    obtain ⟨⟨slot, slots⟩, hslots, h⟩ := bind_eq_ok_iff.1 h
    obtain ⟨-, -, h⟩ := bind_eq_ok_iff.1 h
    obtain ⟨hslot, -⟩ := filledFrom_of_readMembers hnames hslots
    rw [Fields.settle_cons hrequired h] at hslot
    obtain ⟨first, hfirst, hread⟩ := Option.map_eq_some_iff.1 hslot.symm
    exact ⟨first, hfirst, hread⟩
  | list items ending =>
    rw [Shape.read] at h
    exact Fields.readPositional_cons hrequired h
  | _ => exact absurd h refuse_ne_ok

/-! ## Fields by their names and places -/

theorem readText_eq_ok_iff {tree : Tree} {text : String} :
    readText tree = .ok text ↔ ∃ raw, tree = .text raw ∧ raw.content = .ok text := by
  constructor
  · intro h
    cases tree with
    | text raw =>
      rw [readText, contentOf] at h
      cases hcontent : raw.content with
      | error fault => simp [hcontent] at h
      | ok found => exact ⟨raw, rfl, by simpa [hcontent] using h⟩
    | _ => exact absurd h refuse_ne_ok
  · rintro ⟨raw, rfl, hcontent⟩
    rw [readText, contentOf, hcontent]

theorem exists_text_of_read_bytes {form : ByteForm} {tree : Tree} {octets : Bytes}
    (h : (Shape.bytes form).read tree = .ok octets) : ∃ raw, tree = .text raw := by
  rw [Shape.read] at h
  obtain ⟨text, htext, -⟩ := bind_eq_ok_iff.1 h
  obtain ⟨raw, rfl, -⟩ := readText_eq_ok_iff.1 htext
  exact ⟨raw, rfl⟩

theorem Shape.read_of_read_optional {item : Shape} {tree : Tree} {inner : item.Carrier}
    (h : (Shape.optional item).read tree = .ok (some inner)) : item.read tree = .ok inner := by
  have hsome : some <$> item.read tree = .ok (some inner) := by
    cases tree with
    | null => cases h
    | _ => exact h
  cases hread : item.read tree with
  | error failure => simp [hread] at hsome
  | ok found => simpa [hread] using hsome

theorem read_text_ne_ok {fields : Fields} {raw : RawText} {values : fields.Carrier} :
    (Shape.record record strict fields).read (.text raw) ≠ .ok values :=
  refuse_ne_ok

/-- Where a field of a record is read from: the member with its name, or the item at its place. -/
def fieldOf? (name : String) (place : Nat) : Tree → Option Tree
  | .object members _ => memberOf? name members
  | .list items _ => items[place]?
  | _ => none

/-- Whether a field has a name and a shape and stands at a place among the fields of a record. -/
inductive Fields.At (name : String) (shape : Shape) : Fields → Nat → Prop
  | here {rest : Fields} : At name shape (.cons name shape rest) 0
  | behind {other : String} {otherShape : Shape} {rest : Fields} {place : Nat}
      (h : At name shape rest place) : At name shape (.cons other otherShape rest) (place + 1)

theorem within_eq_ok_iff {α : Type} {step : PathStep} {reading : Reading α} {value : α} :
    within step reading = .ok value ↔ reading = .ok value := by
  cases reading <;> simp [within]

section

variable {fields : Fields} {place : Nat} {members : List (RawText × Tree)}

theorem Fields.At.read_of_filledFrom (h : Fields.At name shape fields place)
    {slots : fields.Slots} (hfilled : fields.FilledFrom members fields.noSlots slots)
    {tree : Tree} (htree : memberOf? name members = some tree) :
    ∃ value, shape.read tree = .ok value := by
  induction h with
  | here =>
    obtain ⟨slot, slots⟩ := slots
    obtain ⟨hslot, -⟩ := hfilled
    rw [htree] at hslot
    cases slot with
    | none => cases hslot
    | some value => exact ⟨value, (Option.some.inj hslot).symm⟩
  | behind h ih =>
    obtain ⟨slot, slots⟩ := slots
    exact ih hfilled.2

theorem Fields.At.exists_member_of_settle (h : Fields.At name shape fields place)
    (hrequired : shape.leftOut? = none) {slots : fields.Slots}
    (hfilled : fields.FilledFrom members fields.noSlots slots) {values : fields.Carrier}
    (hsettle : fields.settle slots = .ok values) : ∃ tree, memberOf? name members = some tree := by
  induction h with
  | here =>
    obtain ⟨slot, slots⟩ := slots
    obtain ⟨value, values⟩ := values
    obtain ⟨hslot, -⟩ := hfilled
    rw [Fields.settle_cons hrequired hsettle] at hslot
    obtain ⟨tree, htree, -⟩ := Option.map_eq_some_iff.1 hslot.symm
    exact ⟨tree, htree⟩
  | @behind other otherShape rest place h ih =>
    obtain ⟨slot, slots⟩ := slots
    rw [Fields.settle] at hsettle
    cases hslot : slot.or otherShape.leftOut? with
    | none =>
      rw [hslot] at hsettle
      cases hsettle
    | some value =>
      rw [hslot] at hsettle
      obtain ⟨others, hothers, -⟩ := bind_eq_ok_iff.1 hsettle
      exact ih hfilled.2 hothers

theorem Fields.At.read_of_readPositional (h : Fields.At name shape fields place)
    {size index : Nat} {items : List Tree} {ending : ListEnd} {values : fields.Carrier}
    (hread : fields.readPositional record size index items ending = .ok values) {tree : Tree}
    (htree : items[place]? = some tree) : ∃ value, shape.read tree = .ok value := by
  induction h generalizing index items with
  | here =>
    cases items with
    | nil => cases htree
    | cons item items =>
      cases htree
      rw [Fields.readPositional] at hread
      obtain ⟨value, hvalue, -⟩ := bind_eq_ok_iff.1 hread
      exact ⟨value, within_eq_ok_iff.1 hvalue⟩
  | behind h ih =>
    cases items with
    | nil => cases htree
    | cons item items =>
      rw [Fields.readPositional] at hread
      obtain ⟨value, -, hread⟩ := bind_eq_ok_iff.1 hread
      obtain ⟨others, hothers, -⟩ := bind_eq_ok_iff.1 hread
      exact ih hothers htree

theorem Fields.At.exists_item_of_readPositional (h : Fields.At name shape fields place)
    (hrequired : shape.leftOut? = none) {size index : Nat} {items : List Tree} {ending : ListEnd}
    {values : fields.Carrier}
    (hread : fields.readPositional record size index items ending = .ok values) :
    ∃ tree, items[place]? = some tree := by
  induction h generalizing index items with
  | here =>
    cases items with
    | cons item items => exact ⟨item, rfl⟩
    | nil =>
      rw [Fields.readPositional] at hread
      obtain ⟨-, -, hread⟩ := bind_eq_ok_iff.1 hread
      rw [hrequired] at hread
      cases hread
  | @behind other otherShape rest place h ih =>
    rw [Fields.readPositional.eq_def] at hread
    cases items with
    | cons item items =>
      obtain ⟨value, -, hread⟩ := bind_eq_ok_iff.1 hread
      obtain ⟨others, hothers, -⟩ := bind_eq_ok_iff.1 hread
      exact ih hothers
    | nil =>
      obtain ⟨-, -, hread⟩ := bind_eq_ok_iff.1 hread
      cases hleftOut : otherShape.leftOut? with
      | none =>
        simp only [hleftOut] at hread
        cases hread
      | some value =>
        simp only [hleftOut] at hread
        obtain ⟨others, hothers, -⟩ := bind_eq_ok_iff.1 hread
        obtain ⟨tree, htree⟩ := ih hothers
        cases htree

theorem Fields.At.read_of_fieldOf? (h : Fields.At name shape fields place)
    (hnames : fields.names.Nodup) {tree field : Tree} {values : fields.Carrier}
    (hread : (Shape.record record strict fields).read tree = .ok values)
    (hfield : fieldOf? name place tree = some field) : ∃ value, shape.read field = .ok value := by
  cases tree with
  | object members ending =>
    rw [Shape.read] at hread
    obtain ⟨slots, hslots, -⟩ := bind_eq_ok_iff.1 hread
    exact h.read_of_filledFrom (filledFrom_of_readMembers hnames hslots) hfield
  | list items ending =>
    rw [Shape.read] at hread
    exact h.read_of_readPositional hread hfield
  | _ => cases hfield

/-- A record is read only from a tree that has every field that may not be left out. -/
theorem Fields.At.exists_fieldOf? (h : Fields.At name shape fields place)
    (hnames : fields.names.Nodup) (hrequired : shape.leftOut? = none) {tree : Tree}
    {values : fields.Carrier}
    (hread : (Shape.record record strict fields).read tree = .ok values) :
    ∃ field, fieldOf? name place tree = some field := by
  cases tree with
  | object members ending =>
    rw [Shape.read] at hread
    obtain ⟨slots, hslots, hread⟩ := bind_eq_ok_iff.1 hread
    obtain ⟨-, -, hsettle⟩ := bind_eq_ok_iff.1 hread
    exact h.exists_member_of_settle hrequired (filledFrom_of_readMembers hnames hslots) hsettle
  | list items ending =>
    rw [Shape.read] at hread
    exact h.exists_item_of_readPositional hrequired hread
  | _ => exact absurd hread refuse_ne_ok

end

theorem Fields.mem_names_of_fill : {fields : Fields} → {found : String} → {tree : Tree} →
    {before after : fields.Slots} → fields.fill found tree before = .ok (some after) →
      found ∈ fields.names
  | .nil, _, _, _, _, h => by cases h
  | .cons name shape rest, found, tree, (slot, slots), after, h => by
    by_cases heq : found = name
    · rw [heq]
      exact List.mem_cons_self
    · rw [Fields.fill, if_neg heq] at h
      obtain ⟨answer, hanswer, h⟩ := bind_eq_ok_iff.1 h
      cases answer with
      | none => cases h
      | some filled => exact List.mem_cons_of_mem name (Fields.mem_names_of_fill hanswer)

/-- An object that is read as a strict record has no member but those of its fields. -/
theorem memberOf?_eq_none_of_strict {known : List String} {fields : Fields}
    {members : List (RawText × Tree)} {before after : fields.Slots}
    (h : readMembers true known fields.fill before members = .ok after) {name : String}
    (hname : name ∉ fields.names) : memberOf? name members = none := by
  induction members generalizing before with
  | nil => rfl
  | cons member members ih =>
    obtain ⟨key, tree⟩ := member
    rw [readMembers] at h
    obtain ⟨found, hkey, h⟩ := bind_eq_ok_iff.1 h
    obtain ⟨answer, hanswer, h⟩ := bind_eq_ok_iff.1 h
    cases answer with
    | none => cases h
    | some mid =>
      have hne : found ≠ name := by
        rintro rfl
        exact hname (Fields.mem_names_of_fill hanswer)
      rw [memberOf?_cons_of_ne hkey hne]
      exact ih h

/-! ## Numbers -/

theorem Width.numberOf_of_read {width : Width} {tree : Tree} {value : width.Carrier}
    (h : width.read tree = .ok value) :
    ∃ numeral, tree = .numeral numeral ∧ numberOf numeral = .ok (.natural (width.toNat value)) := by
  cases tree with
  | numeral numeral =>
    refine ⟨numeral, rfl, ?_⟩
    obtain ⟨number, hnumber, h⟩ := bind_eq_ok_iff.1 h
    cases number with
    | negative magnitude => cases h
    | real real => cases h
    | natural natural =>
      have hvalue : width.ofNat? natural = some value := by
        cases hvalue : width.ofNat? natural with
        | none => simp [hvalue, mismatch] at h
        | some other => simpa [hvalue] using h
      have hnatural : natural = width.toNat value := by
        cases width with
        | four =>
          rw [Width.ofNat?] at hvalue
          split at hvalue
          · rename_i hlt
            cases hvalue
            exact (UInt32.toNat_ofNat_of_lt' hlt).symm
          · cases hvalue
        | eight =>
          rw [Width.ofNat?] at hvalue
          split at hvalue
          · rename_i hlt
            cases hvalue
            exact (UInt64.toNat_ofNat_of_lt' hlt).symm
          · cases hvalue
      rw [hnumber, hnatural]
  | _ => exact absurd h refuse_ne_ok

/-! ## Texts -/

theorem ofJson_eq_ok_iff {α : Type} [Described α] {text : Bytes} {value : α} :
    ofJson α text = .ok value ↔
      (shapeOf α).read (Json.Document.read text).root = .ok (Described.view value) ∧
        (Json.Document.read text).trailing = false := by
  rw [ofJson, Shape.readDocument]
  cases hread : (shapeOf α).read (Json.Document.read text).root with
  | error failure => simp
  | ok read =>
    cases htrailing : (Json.Document.read text).trailing with
    | true => simp [check]
    | false =>
      simp only [Result.ok_bind, check]
      constructor
      · intro h
        cases h
        exact ⟨congrArg Except.ok (Described.view_build read).symm, trivial⟩
      · rintro ⟨h, -⟩
        cases h
        exact congrArg Except.ok (Described.build_view value)

end EnclaveRegistry.Schema
