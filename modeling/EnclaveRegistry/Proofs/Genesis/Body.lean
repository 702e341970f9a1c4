import EnclaveRegistry.Proofs.Genesis.Version
import EnclaveRegistry.Proofs.Json.Member

/-! # A state has the form of one schema only

The keys of a state tell its schema: the first schema wants a text under a name that the current one
refuses, and in a list it wants a text where the current one wants a record or nothing. So nothing
is read as a state of both schemas, and a document is refused whose version is not that of its
state.
-/
namespace EnclaveRegistry.Genesis

open Json (RawText SameTree SameStage Tree)
open Result (bind_eq_ok_iff exists_error_of_ne_ok)
open Schema (Described Fields Shape fieldOf? ofJson shapeOf toJson Writes)

/-! ## States -/

theorem not_read_masterKey (raw : RawText) (key : (shapeOf (Option MasterKey)).Carrier) :
    (shapeOf (Option MasterKey)).read (.text raw) ≠ .ok key := by
  intro h
  change some <$> (shapeOf MasterKey).read (.text raw) = _ at h
  cases hrecord : (shapeOf MasterKey).read (.text raw) with
  | ok record => exact Schema.read_text_ne_ok hrecord
  | error failure =>
    rw [hrecord] at h
    cases h

abbrev LegacyState.fields : Fields :=
  .cons "registration" (shapeOf (List LegacyRecord))
    (.cons "node_exch_master_certificate" (.bytes .base64)
      (.cons "io_master_certificate" (.bytes .base64) .nil))

abbrev State.fields : Fields :=
  .cons "registration" (shapeOf (List NodeRecord))
    (.cons "node_exch_master_key" (shapeOf (Option MasterKey))
      (.cons "io_master_key" (shapeOf (Option MasterKey)) .nil))

theorem LegacyState.names_nodup : LegacyState.fields.names.Nodup := by
  simp [Fields.names]

theorem State.names_nodup : State.fields.names.Nodup := by
  simp [Fields.names]

theorem not_read_both {tree : Tree} {old : (shapeOf LegacyState).Carrier}
    (hold : (shapeOf LegacyState).read tree = .ok old) (new : (shapeOf State).Carrier) :
    (shapeOf State).read tree ≠ .ok new := by
  intro hnew
  have hkey : LegacyState.fields.At "node_exch_master_certificate" (.bytes .base64) 1 :=
    .behind .here
  obtain ⟨field, hfield⟩ := hkey.exists_fieldOf? LegacyState.names_nodup rfl hold
  obtain ⟨octets, hoctets⟩ := hkey.read_of_fieldOf? LegacyState.names_nodup hold hfield
  obtain ⟨raw, rfl⟩ := Schema.exists_text_of_read_bytes hoctets
  cases tree with
  | object members ending =>
    -- By name: the current schema knows no member of this name, and refuses it.
    change (Shape.record "GenesisState" true State.fields).read _ = _ at hnew
    rw [Shape.read] at hnew
    obtain ⟨slots, hslots, -⟩ := bind_eq_ok_iff.1 hnew
    have hunknown : "node_exch_master_certificate" ∉ State.fields.names := by simp [Fields.names]
    have hnone := Schema.memberOf?_eq_none_of_strict hslots hunknown
    cases hnone.symm.trans hfield
  | list items ending =>
    -- By place: the current schema takes the text for a master key.
    have hplace : State.fields.At "node_exch_master_key" (shapeOf (Option MasterKey)) 1 :=
      .behind .here
    obtain ⟨key, hread⟩ := hplace.read_of_fieldOf? State.names_nodup hnew hfield
    exact not_read_masterKey raw key hread
  | _ => cases hfield

/-! ## Documents -/

theorem exists_body_of_ofJson {σ : Type} [Described σ] {text : Bytes} {document : Document σ}
    (hrequired : (shapeOf σ).leftOut? = none) (h : ofJson (Document σ) text = .ok document) :
    ∃ body value, fieldOf? "registration" 1 (Json.Document.read text).root = some body ∧
      (shapeOf σ).read body = .ok value := by
  have hstate : Fields.At "registration" (shapeOf σ) (.cons "schema_version" (shapeOf UInt32)
      (.cons "registration" (shapeOf σ) .nil)) 1 := .behind .here
  have hnames : (Fields.cons "schema_version" (shapeOf UInt32)
      (.cons "registration" (shapeOf σ) .nil)).names.Nodup := by
    simp [Fields.names]
  have hread := (Schema.ofJson_eq_ok_iff.1 h).1
  obtain ⟨body, hbody⟩ := hstate.exists_fieldOf? hnames hrequired hread
  obtain ⟨value, hvalue⟩ := hstate.read_of_fieldOf? hnames hread hbody
  exact ⟨body, value, hbody, hvalue⟩

/-- The schemas that a version stands for, each with the trees that are states of it. -/
inductive BodyOf (body : Tree) : Nat → Prop
  | legacy {value} (h : (shapeOf LegacyState).read body = .ok value) : BodyOf body 1
  | current {value} (h : (shapeOf State).read body = .ok value) : BodyOf body 2

theorem BodyOf.unique {body : Tree} {version other : Nat} (h : BodyOf body version)
    (h' : BodyOf body other) : version = other := by
  cases h with
  | legacy hold =>
    cases h' with
    | legacy _ => rfl
    | current hnew => exact absurd hnew (not_read_both hold _)
  | current hnew =>
    cases h' with
    | legacy hold => exact absurd hnew (not_read_both hold _)
    | current _ => rfl

theorem bodyOf_of_load {text : Bytes} {document : Document State}
    (h : load text = .ok document) : ∃ body version,
      fieldOf? "registration" 1 (Json.Document.read text).root = some body ∧
        HasVersion text version ∧ BodyOf body version := by
  obtain ⟨version, hversion, hload⟩ := bind_eq_ok_iff.1 h
  by_cases hcurrent : version = currentVersion.toUInt64
  · rw [if_pos hcurrent] at hload
    obtain ⟨body, value, hbody, hvalue⟩ :=
      exists_body_of_ofJson rfl (readBody_eq_ok_iff.1 hload)
    refine ⟨body, 2, hbody, ?_, .current hvalue⟩
    rw [hcurrent] at hversion
    exact hasVersion_of_readVersion hversion
  · rw [if_neg hcurrent] at hload
    obtain ⟨old, hold, -⟩ := exists_legacy_of_migrate hload
    obtain ⟨body, value, hbody, hvalue⟩ := exists_body_of_ofJson rfl hold
    exact ⟨body, 1, hbody, hasVersion_of_ofJson hold, .legacy hvalue⟩

theorem load_ne_ok_of_bodyOf {text : Bytes} {body : Tree} {version schema : Nat}
    (hbody : fieldOf? "registration" 1 (Json.Document.read text).root = some body)
    (hversion : HasVersion text version) (hschema : BodyOf body schema)
    (hne : version ≠ schema) (document : Document State) : load text ≠ .ok document := by
  intro hload
  obtain ⟨body', version', hbody', hversion', hschema'⟩ := bodyOf_of_load hload
  rw [hbody] at hbody'
  cases hbody'
  have hsame : version = version' := hversion.unique hversion'
  have hfits : schema = version' := hschema.unique hschema'
  exact hne (hsame.trans hfits.symm)

/-! ## One state under two versions -/

/-- The text of a document: a version, and the text of a state. -/
def tagged (version : UInt32) (body : Bytes) : Bytes :=
  Bytes.ascii "\x7b\x22schema_version\x22:" ++ Decimal.ofNat version.toNat ++
    Bytes.ascii ",\x22registration\x22:" ++ body ++ Bytes.ascii "\x7d"

def versionMember (version : UInt32) : RawText × Tree :=
  (.ofString "schema_version", .numeral (.ofNat version.toNat))

theorem tagged_eq (version : UInt32) (body : Bytes) : tagged version body =
    123 :: ((RawText.ofString "schema_version").text ++
      58 :: ((Json.Numeral.ofNat version.toNat).text ++
        44 :: ((RawText.ofString "registration").text ++ 58 :: (body ++ [125])))) := by
  have hbefore : Bytes.ascii "\x7b\x22schema_version\x22:" =
      123 :: (RawText.ofString "schema_version").text ++ [58] := by decide +kernel
  have hbetween : Bytes.ascii ",\x22registration\x22:" =
      44 :: (RawText.ofString "registration").text ++ [58] := by decide +kernel
  have hafter : Bytes.ascii "\x7d" = [125] := by decide
  have hnumeral : Decimal.ofNat version.toNat = (Json.Numeral.ofNat version.toNat).text := by
    simp [Json.Numeral.text, Json.Numeral.ofNat]
  rw [tagged, hbefore, hbetween, hafter, hnumeral]
  simp only [List.append_assoc, List.cons_append, List.nil_append]

theorem tagged_toJson {σ : Type} [Described σ] (version : UInt32) (state : σ) :
    tagged version (toJson state) = toJson (Document.mk version state) := by
  rw [tagged_eq, toJson, toJson, treeOf_document]
  simp [Json.Tree.compact, Json.compactMembers, Json.joined]

theorem assemble_tagged (version : UInt32) (body : Bytes) :
    Json.assemble (.value []) (Json.tokens (tagged version body)) =
      Json.assemble (.value [.member [versionMember version] (.ofString "registration")])
        (Json.tokens (body ++ [125])) := by
  have hcomma (rest : Bytes) : Json.Numeral.Stops (44 :: rest) := (Json.delimits_comma rest).2
  rw [tagged_eq, (Json.delimits_openObject _).1, RawText.ofString, Json.tokens_text,
    (Json.delimits_colon _).1, Json.reads_numeral _ _ (hcomma _), (Json.delimits_comma _).1,
    RawText.ofString, Json.tokens_text, (Json.delimits_colon _).1]
  generalize Json.tokens (body ++ [125]) = rest
  rfl

/-- Under two versions, the text of a state is read alike. -/
theorem sameTree_tagged (version other : UInt32) (body : Bytes) :
    SameTree (versionMember version) (versionMember other)
      (Json.Document.read (tagged version body)).root
      (Json.Document.read (tagged other body)).root := by
  have hstage : SameStage (versionMember version) (versionMember other)
      (.value [.member [versionMember version] (.ofString "registration")])
      (.value [.member [versionMember other] (.ofString "registration")]) :=
    .value (.member _ (.outermost []))
  have htree := hstage.assemble (Json.tokens (body ++ [125]))
  rw [← assemble_tagged, ← assemble_tagged] at htree
  exact htree

theorem contentOf_version :
    Schema.contentOf (.ofString "schema_version") = .ok "schema_version" :=
  Schema.contentOf_ofString "schema_version"

theorem fieldOf?_tagged (version other : UInt32) (body : Bytes) :
    fieldOf? "registration" 1 (Json.Document.read (tagged version body)).root =
      fieldOf? "registration" 1 (Json.Document.read (tagged other body)).root := by
  obtain ⟨members, ending, hroot, hroot'⟩ := sameTree_tagged version other body
  have hname : "schema_version" ≠ "registration" := by simp
  rw [hroot, hroot', fieldOf?, fieldOf?, versionMember, versionMember,
    Schema.memberOf?_cons_of_ne contentOf_version hname,
    Schema.memberOf?_cons_of_ne contentOf_version hname]

theorem eq_of_hasVersion_tagged {version : UInt32} {body : Bytes} {number : Nat}
    (h : HasVersion (tagged version body) number) : number = version.toNat := by
  obtain ⟨members, ending, hroot, -⟩ := sameTree_tagged version version body
  obtain ⟨numeral, hfirst, hnumber⟩ := h
  have hlimit : version.toNat < UInt64.size := Nat.lt_trans version.toNat_lt (by decide)
  rw [hroot, Schema.firstOf?, versionMember, Schema.memberOf?_cons_self contentOf_version] at hfirst
  cases hfirst
  rw [Schema.numberOf, Json.Numeral.number_ofNat hlimit] at hnumber
  cases hnumber
  rfl

theorem load_tagged_ne_ok {version other : UInt32} (hne : version ≠ other) {body : Bytes}
    {document : Document State} (h : load (tagged version body) = .ok document)
    (document' : Document State) : load (tagged other body) ≠ .ok document' := by
  intro h'
  obtain ⟨tree, number, htree, hnumber, hschema⟩ := bodyOf_of_load h
  obtain ⟨tree', number', htree', hnumber', hschema'⟩ := bodyOf_of_load h'
  rw [fieldOf?_tagged other version, htree] at htree'
  cases htree'
  have hsame : number = number' := hschema.unique hschema'
  have hversions : version.toNat = other.toNat := by
    rw [← eq_of_hasVersion_tagged hnumber, hsame, eq_of_hasVersion_tagged hnumber']
  exact hne (UInt32.toNat_inj.1 hversions)

theorem unambiguous_legacyState : (shapeOf LegacyState).Unambiguous := by
  simp [shapeOf, Described.shape, Shape.Unambiguous, Fields.Unambiguous, Fields.names]

/-- No text is read as a state of both schemas, and no text of a state is loaded under two versions,
whatever stands in the place of the state. A text that is a document of one schema but for its
version is refused and not taken for one of the other. -/
theorem state_has_one_schema :
    (∀ text old, ofJson LegacyState text = .ok old →
      ∃ failure, ofJson State text = .error failure) ∧
    (∀ version other body document, version ≠ other → load (tagged version body) = .ok document →
      ∃ error, load (tagged other body) = .error error) ∧
    (∀ text document, ofJson (Document LegacyState) text = .ok document → document.version ≠ 1 →
      ∃ error, load text = .error error) ∧
    ∀ text document, ofJson (Document State) text = .ok document → document.version ≠ 2 →
      ∃ error, load text = .error error := by
  refine ⟨?_, ?_, ?_, ?_⟩
  · intro text old hold
    refine exists_error_of_ne_ok fun new hnew => ?_
    exact not_read_both (Schema.ofJson_eq_ok_iff.1 hold).1 _ (Schema.ofJson_eq_ok_iff.1 hnew).1
  · intro version other body document hne hload
    exact exists_error_of_ne_ok (load_tagged_ne_ok hne hload)
  · intro text document hdocument hversion
    obtain ⟨body, value, hbody, hvalue⟩ := exists_body_of_ofJson rfl hdocument
    have hne : document.version.toNat ≠ 1 := fun heq => hversion (UInt32.toNat_inj.1 heq)
    exact exists_error_of_ne_ok
      (load_ne_ok_of_bodyOf hbody (hasVersion_of_ofJson hdocument) (.legacy hvalue) hne)
  · intro text document hdocument hversion
    obtain ⟨body, value, hbody, hvalue⟩ := exists_body_of_ofJson rfl hdocument
    have hne : document.version.toNat ≠ 2 := fun heq => hversion (UInt32.toNat_inj.1 heq)
    exact exists_error_of_ne_ok
      (load_ne_ok_of_bodyOf hbody (hasVersion_of_ofJson hdocument) (.current hvalue) hne)

theorem state_has_one_schema_sample :
    (∃ failure, ofJson State (toJson LegacyState.sample) = .error failure) ∧
    (load (tagged 1 (toJson LegacyState.sample)) = .ok (.current LegacyState.sample.migrate) ∧
      ∃ error, load (tagged 2 (toJson LegacyState.sample)) = .error error) ∧
    (∃ error, load (toJson (Document.mk 2 LegacyState.sample)) = .error error) ∧
    ∃ error, load (toJson (Document.mk 1 LegacyState.sample.migrate)) = .error error := by
  obtain ⟨hstates, htagged, hlegacy, hcurrent⟩ := state_has_one_schema
  have hstate : ofJson LegacyState (toJson LegacyState.sample) = .ok LegacyState.sample :=
    Writes.ofJson (.inl rfl) unambiguous_legacyState
  have hload : load (tagged 1 (toJson LegacyState.sample)) =
      .ok (.current LegacyState.sample.migrate) := by
    rw [tagged_toJson]
    exact load_of_migrate (migrate_of_writes (.inl rfl))
  have hold : ofJson (Document LegacyState) (toJson (Document.mk 2 LegacyState.sample)) =
      .ok ⟨2, LegacyState.sample⟩ := Writes.ofJson (.inl rfl) unambiguous_legacy
  have hnew : ofJson (Document State) (toJson (Document.mk 1 LegacyState.sample.migrate)) =
      .ok ⟨1, LegacyState.sample.migrate⟩ := Writes.ofJson (.inl rfl) unambiguous_current
  exact ⟨hstates _ _ hstate, ⟨hload, htagged 1 2 _ _ (by decide) hload⟩,
    hlegacy _ _ hold (by decide), hcurrent _ _ hnew (by decide)⟩

end EnclaveRegistry.Genesis
