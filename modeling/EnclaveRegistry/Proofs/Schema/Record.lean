import EnclaveRegistry.Node.MasterKey
import EnclaveRegistry.Node.Record
import EnclaveRegistry.Proofs.Text.Utf8
import EnclaveRegistry.Schema.Record

/-! # Binary forms are read back

The binary form of a value is read back as that value, whatever follows it, if every length in the
value fits the eight octets that lengths are written in.
-/
namespace EnclaveRegistry
namespace Schema

mutual

/-- Whether the lengths and choices in a value fit the octets that they are written in. -/
def Shape.Fits : (shape : Shape) → shape.Carrier → Prop
  | .bytes _, value => value.length < UInt64.size
  | .text, value => (Utf8.encode value).length < UInt64.size
  | .flag, _ => True
  | .natural _, _ => True
  | .choice names, _ => names.length ≤ UInt32.size
  | .optional item, value => ∀ content ∈ value, item.Fits content
  | .list item, values => values.length < UInt64.size ∧ ∀ value ∈ values, item.Fits value
  | .record _ _ fields, values => fields.Fits values

def Fields.Fits : (fields : Fields) → fields.Carrier → Prop
  | .nil, _ => True
  | .cons _ shape rest, (value, values) => shape.Fits value ∧ rest.Fits values

end

def Fits {α : Type} [Described α] (value : α) : Prop := (shapeOf α).Fits (Described.view value)

/-! ## The parts of a binary form -/

theorem takeNat_ofNatLE {width value : Nat} (h : value < Nat.pow 256 width) (rest : Bytes) :
    takeNat width (Bytes.ofNatLE width value ++ rest) = .ok (value, rest) := by
  have hlength : ¬ (Bytes.ofNatLE width value ++ rest).length < width := by simp
  have htake : (Bytes.ofNatLE width value ++ rest).take width = Bytes.ofNatLE width value :=
    List.take_left' (Bytes.length_ofNatLE width value)
  have hdrop : (Bytes.ofNatLE width value ++ rest).drop width = rest :=
    List.drop_left' (Bytes.length_ofNatLE width value)
  rw [takeNat, if_neg hlength, htake, hdrop, Bytes.toNatLE_ofNatLE width value h]

theorem takeNat_length {length : Nat} (h : length < UInt64.size) (rest : Bytes) :
    takeNat 8 (Bytes.ofNatLE 8 length ++ rest) = .ok (length, rest) :=
  takeNat_ofNatLE h rest

theorem takeNat_tag (tag : UInt8) (rest : Bytes) :
    takeNat 1 (tag :: rest) = .ok (tag.toNat, rest) := by
  have hlength : ¬ (tag :: rest).length < 1 := by simp
  rw [takeNat, if_neg hlength]
  rfl

theorem takeContent_append (content rest : Bytes) :
    takeContent content.length (content ++ rest) = .ok (content, rest) := by
  have hlength : ¬ (content ++ rest).length < content.length := by simp
  rw [takeContent, if_neg hlength, List.take_left, List.drop_left]

theorem takeText_packContent {text : String} (h : (Utf8.encode text).length < UInt64.size)
    (rest : Bytes) : takeText (packContent (Utf8.encode text) ++ rest) = .ok (text, rest) := by
  rw [takeText, packContent, List.append_assoc, takeNat_length h]
  change (takeContent (Utf8.encode text).length (Utf8.encode text ++ rest) >>= _) = _
  rw [takeContent_append]
  simp only [bind, Except.bind, Utf8.decode?_encode]
  rfl

theorem takeAll_flatMap {α : Type} {take : Bytes → Except RecordFault (α × Bytes)}
    {pack : α → Bytes} {values : List α}
    (h : ∀ value ∈ values, ∀ rest, take (pack value ++ rest) = .ok (value, rest)) (rest : Bytes) :
    takeAll take values.length (values.flatMap pack ++ rest) = .ok (values, rest) := by
  induction values with
  | nil => rfl
  | cons value values ih =>
    have htail := ih fun other hother => h other (List.mem_cons_of_mem value hother)
    rw [List.length_cons, takeAll, List.flatMap_cons, List.append_assoc,
      h value List.mem_cons_self]
    change (takeAll take values.length (values.flatMap pack ++ rest) >>= _) = _
    rw [htail]
    rfl

theorem Width.take_pack (width : Width) (value : width.Carrier) (rest : Bytes) :
    width.take (width.pack value ++ rest) = .ok (value, rest) := by
  cases width with
  | four =>
    have h : takeNat 4 (Bytes.ofNatLE 4 value.toNat ++ rest) = .ok (value.toNat, rest) :=
      takeNat_ofNatLE value.toNat_lt rest
    rw [Width.take, Width.pack, h]
    exact congrArg (fun v => Except.ok (v, rest)) (UInt32.ofNat_toNat ..)
  | eight =>
    have h : takeNat 8 (Bytes.ofNatLE 8 value.toNat ++ rest) = .ok (value.toNat, rest) :=
      takeNat_ofNatLE value.toNat_lt rest
    rw [Width.take, Width.pack, h]
    exact congrArg (fun v => Except.ok (v, rest)) (UInt64.ofNat_toNat ..)

/-! ## Whole values -/

mutual

/-- A value is taken back from the front of its binary form, and what follows it is left. -/
theorem Shape.take_pack_append : (shape : Shape) → (value : shape.Carrier) → shape.Fits value →
    (rest : Bytes) → shape.take (shape.pack value ++ rest) = .ok (value, rest)
  | .bytes _, (value : Bytes), h, rest => by
    rw [Shape.take, Shape.pack, packContent, List.append_assoc, takeNat_length h]
    exact takeContent_append value rest
  | .text, (value : String), h, rest => by
    rw [Shape.take, Shape.pack]
    exact takeText_packContent h rest
  | .flag, (value : Bool), _, rest => by
    cases value <;> rw [Shape.take, Shape.pack, List.singleton_append, takeNat_tag] <;> rfl
  | .natural width, value, _, rest => by
    rw [Shape.take, Shape.pack]
    exact width.take_pack value rest
  | .choice names, (value : Fin names.length), h, rest => by
    have hlt : value.val < Nat.pow 256 4 := Nat.lt_of_lt_of_le value.isLt h
    rw [Shape.take, Shape.pack, takeNat_ofNatLE hlt]
    exact dif_pos value.isLt
  | .optional _, none, _, rest => by
    rw [Shape.take, Shape.pack, List.singleton_append, takeNat_tag]
    rfl
  | .optional item, some value, h, rest => by
    have hitem := item.take_pack_append value (h value rfl) rest
    rw [Shape.take, Shape.pack, List.cons_append, takeNat_tag]
    change (item.take (item.pack value ++ rest) >>= _) = _
    rw [hitem]
    rfl
  | .list item, (values : List item.Carrier), h, rest => by
    rw [Shape.take, Shape.pack, List.append_assoc, takeNat_length h.1]
    exact takeAll_flatMap (fun value hvalue => item.take_pack_append value (h.2 value hvalue)) rest
  | .record _ _ fields, values, h, rest => by
    rw [Shape.take, Shape.pack]
    exact fields.take_pack_append values h rest

theorem Fields.take_pack_append : (fields : Fields) → (values : fields.Carrier) →
    fields.Fits values → (rest : Bytes) →
      fields.take (fields.pack values ++ rest) = .ok (values, rest)
  | .nil, _, _, _ => rfl
  | .cons _ shape fields, (value, values), h, rest => by
    have hvalue := shape.take_pack_append value h.1 (fields.pack values ++ rest)
    have hvalues := fields.take_pack_append values h.2 rest
    rw [Fields.take, Fields.pack, List.append_assoc, hvalue]
    change (fields.take (fields.pack values ++ rest) >>= _) = _
    rw [hvalues]
    rfl

end

theorem ofRecord_toRecord_append {α : Type} [Described α] (value : α) (h : Fits value)
    (rest : Bytes) : ofRecord α (toRecord value ++ rest) = .ok value := by
  rw [ofRecord, toRecord, (shapeOf α).take_pack_append (Described.view value) h rest]
  exact congrArg Except.ok (Described.build_view value)

theorem ofRecord_toRecord {α : Type} [Described α] {value : α} (h : Fits value) :
    ofRecord α (toRecord value) = .ok value := by
  simpa using ofRecord_toRecord_append value h []

end Schema

/-! ## What is stored -/

def NodeRecord.Fits (record : NodeRecord) : Prop :=
  record.certificate.octets.length < UInt64.size ∧
    ∀ seed ∈ record.seed, seed.octets.length < UInt64.size

def MasterKey.Fits (key : MasterKey) : Prop := key.octets.length < UInt64.size

theorem NodeRecord.Fits.schema {record : NodeRecord} (h : record.Fits) : Schema.Fits record := by
  refine ⟨h.1, ?_, trivial⟩
  intro content hcontent
  obtain ⟨seed, hseed, rfl⟩ := Option.map_eq_some_iff.1 hcontent
  exact h.2 seed hseed

theorem MasterKey.Fits.schema {key : MasterKey} (h : key.Fits) : Schema.Fits key := ⟨h, trivial⟩

end EnclaveRegistry
