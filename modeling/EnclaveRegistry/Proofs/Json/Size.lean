import EnclaveRegistry.Proofs.Json.Tree
import EnclaveRegistry.Proofs.Text.Utf8

/-! # The strings of a text are no longer than the text

A string of a tree is that of a token, a token is cut from the text, and no string stands for more
octets than it is written with. What is read from a text is thus bounded by the length of the text.
-/
namespace EnclaveRegistry.Json

namespace RawText

/-! ## One string -/

/-- The number of octets that a string is written with, quotes left out. -/
def width (raw : RawText) : Nat := (raw.pieces.flatMap pieceText).length

theorem width_cons (piece : Piece) (raw : RawText) :
    (raw.cons piece).width = (pieceText piece).length + raw.width := by
  rw [width, cons, List.flatMap_cons, List.length_append, width]

@[simp] theorem width_nil (ending : Ending) : (⟨[], ending⟩ : RawText).width = 0 := rfl

theorem width_read_le (text : Bytes) :
    (read text).1.width + (read text).2.length ≤ text.length := by
  fun_induction read text <;> simp_all [width_cons, pieceText] <;> omega

theorem length_le_of_map {result : Except Fault Bytes} {front bytes : Bytes} {width limit : Nat}
    (h : (front ++ ·) <$> result = .ok bytes) (hfront : front.length ≤ width)
    (hrest : ∀ {rest}, result = .ok rest → rest.length ≤ limit) :
    bytes.length ≤ width + limit := by
  cases result with
  | error fault => cases h
  | ok rest =>
    obtain rfl : front ++ rest = bytes := Except.ok.inj h
    rw [List.length_append]
    exact Nat.add_le_add hfront (hrest rfl)

theorem length_octets_le {pieces : List Piece} {ending : Ending} {bytes : Bytes}
    (h : octets pieces ending = .ok bytes) :
    bytes.length ≤ (pieces.flatMap pieceText).length := by
  fun_induction octets pieces ending generalizing bytes with
  | case1 =>
    cases h
    exact Nat.le_refl 0
  | case6 octet rest ending ih =>
    rw [List.flatMap_cons, List.length_append]
    exact length_le_of_map h (Nat.le_refl [octet].length) ih
  | case7 octet rest ending ih =>
    rw [List.flatMap_cons, List.length_append]
    exact length_le_of_map h (Nat.le_succ [octet].length) ih
  -- Two escapes of six octets each stand for one character beyond the first plane.
  | case9 =>
    rename_i ih
    rw [List.flatMap_cons, List.flatMap_cons, ← List.append_assoc, List.length_append]
    exact length_le_of_map h (Nat.le_trans (Utf8.length_encodeChar_le _) (by simp [pieceText])) ih
  | case15 value rest ending _ _ ih =>
    rw [List.flatMap_cons, List.length_append]
    exact length_le_of_map h (Nat.le_trans (Utf8.length_encodeChar_le _) (by simp [pieceText])) ih
  | _ => cases h

theorem length_content_le {raw : RawText} {text : String} (h : raw.content = .ok text) :
    (Utf8.encode text).length ≤ raw.width := by
  rw [content] at h
  split at h
  · cases h
  · rename_i bytes hbytes
    split at h
    · rename_i found hfound
      cases h
      rw [Utf8.encode_of_decode? hfound]
      exact length_octets_le hbytes
    · cases h

end RawText

/-! ## The strings among the tokens -/

theorem Token.readLiteral_eq_or_brokenLiteral (token : Token) (letters rest : Bytes) :
    (readLiteral token letters rest).1 = token ∨
      ∃ atEnd, (readLiteral token letters rest).1 = .brokenLiteral atEnd := by
  fun_induction readLiteral token letters rest <;> simp_all

theorem Token.readLiteral_ne_text {token : Token} (hne : ∀ raw, token ≠ .text raw)
    (letters rest : Bytes) (raw : RawText) : (readLiteral token letters rest).1 ≠ .text raw := by
  rcases readLiteral_eq_or_brokenLiteral token letters rest with h | ⟨atEnd, h⟩
  · rw [h]
    exact hne raw
  · rw [h]
    nofun

theorem Token.width_le_of_read {b : UInt8} {rest : Bytes} {raw : RawText}
    (h : (Token.read b rest).1 = .text raw) : raw.width ≤ rest.length := by
  unfold Token.read at h
  split at h
  -- A word that starts like `true`, `false` or `null` is that or broken, and never a string.
  case h_7 | h_8 | h_9 => exact absurd h (readLiteral_ne_text (by simp) _ _ _)
  case h_10 =>
    obtain rfl := Token.text.inj h
    exact Nat.le_trans (Nat.le_add_right ..) (RawText.width_read_le rest)
  case h_12 => split at h <;> cases h
  all_goals cases h

theorem width_le_of_mem_tokens {text : Bytes} {raw : RawText} (h : .text raw ∈ tokens text) :
    raw.width ≤ text.length := by
  fun_induction tokens text with
  | case1 => cases h
  | case2 b rest _ ih => exact Nat.le_succ_of_le (ih h)
  | case3 b rest _ read _ =>
    obtain hread := List.mem_singleton.1 h
    exact Nat.le_succ_of_le (Token.width_le_of_read hread.symm)
  | case4 b rest _ read _ ih =>
    refine Nat.le_succ_of_le ?_
    rcases List.mem_cons.1 h with hread | h
    · exact Token.width_le_of_read hread.symm
    · exact Nat.le_trans (ih h) (Token.length_read_le b rest)

/-! ## The strings of a tree -/

/-- Whether a string is a value somewhere in a tree. -/
inductive Tree.Holds (raw : RawText) : Tree → Prop
  | text : Holds raw (.text raw)
  | item {items : List Tree} {ending : ListEnd} {tree : Tree} : tree ∈ items → Holds raw tree →
      Holds raw (.list items ending)
  | member {members : List (RawText × Tree)} {ending : ObjectEnd} {member : RawText × Tree} :
      member ∈ members → Holds raw member.2 → Holds raw (.object members ending)

variable {p : RawText → Prop}

def Tree.TextsAre (p : RawText → Prop) (tree : Tree) : Prop := ∀ raw, tree.Holds raw → p raw

namespace Tree

@[simp] theorem textsAre_null : Tree.null.TextsAre p := nofun

@[simp] theorem textsAre_bool (value : Bool) : (Tree.bool value).TextsAre p := nofun

@[simp] theorem textsAre_numeral (numeral : Numeral) : (Tree.numeral numeral).TextsAre p := nofun

@[simp] theorem textsAre_gap (gap : Gap) : (Tree.gap gap).TextsAre p := nofun

@[simp] theorem textsAre_text {raw : RawText} : (Tree.text raw).TextsAre p ↔ p raw :=
  ⟨fun h => h raw .text, fun h _ holds => by cases holds; exact h⟩

@[simp] theorem textsAre_list {items : List Tree} {ending : ListEnd} :
    (Tree.list items ending).TextsAre p ↔ ∀ tree ∈ items, tree.TextsAre p := by
  refine ⟨fun h tree htree raw hraw => h raw (.item htree hraw), fun h raw hraw => ?_⟩
  cases hraw with
  | item htree hraw => exact h _ htree raw hraw

@[simp] theorem textsAre_object {members : List (RawText × Tree)} {ending : ObjectEnd} :
    (Tree.object members ending).TextsAre p ↔ ∀ member ∈ members, member.2.TextsAre p := by
  refine ⟨fun h member hmember raw hraw => h raw (.member hmember hraw), fun h raw hraw => ?_⟩
  cases hraw with
  | member hmember hraw => exact h _ hmember raw hraw

end Tree

def Open.TextsAre (p : RawText → Prop) : Open → Prop
  | .list before => ∀ tree ∈ before, tree.TextsAre p
  | .member before _ => ∀ member ∈ before, member.2.TextsAre p

def Stage.TextsAre (p : RawText → Prop) : Stage → Prop
  | .value stack | .firstItem stack => ∀ container ∈ stack, container.TextsAre p
  | .nextItem before stack | .afterItem before stack =>
    (∀ tree ∈ before, tree.TextsAre p) ∧ ∀ container ∈ stack, container.TextsAre p
  | .nextKey before stack | .colon before _ stack | .afterMember before stack =>
    (∀ member ∈ before, member.2.TextsAre p) ∧ ∀ container ∈ stack, container.TextsAre p

def Step.TextsAre (p : RawText → Prop) : Step → Prop
  | .next stage => stage.TextsAre p
  | .done tree => tree.TextsAre p

variable {stack : List Open}

theorem textsAre_list_reverse {before : List Tree} (h : ∀ tree ∈ before, tree.TextsAre p)
    (ending : ListEnd) : (Tree.list before.reverse ending).TextsAre p :=
  Tree.textsAre_list.2 fun tree htree => h tree (List.mem_reverse.1 htree)

theorem textsAre_object_reverse {before : List (RawText × Tree)}
    (h : ∀ member ∈ before, member.2.TextsAre p) (ending : ObjectEnd) :
    (Tree.object before.reverse ending).TextsAre p :=
  Tree.textsAre_object.2 fun member hmember => h member (List.mem_reverse.1 hmember)

theorem textsAre_breakOff {tree : Tree} (htree : tree.TextsAre p)
    (hstack : ∀ container ∈ stack, container.TextsAre p) : (breakOff tree stack).TextsAre p := by
  induction stack generalizing tree with
  | nil => exact htree
  | cons container rest ih =>
    have hrest := List.forall_mem_of_forall_mem_cons hstack
    have hbefore := hstack container List.mem_cons_self
    cases container with
    | list before =>
      exact ih (textsAre_list_reverse (List.forall_mem_cons.2 ⟨htree, hbefore⟩) .ended) hrest
    | member before key =>
      exact ih (textsAre_object_reverse (List.forall_mem_cons.2 ⟨htree, hbefore⟩) .ended) hrest

theorem textsAre_complete {tree : Tree} (htree : tree.TextsAre p)
    (hstack : ∀ container ∈ stack, container.TextsAre p) : (complete tree stack).TextsAre p := by
  cases stack with
  | nil => exact htree
  | cons container rest =>
    have hrest := List.forall_mem_of_forall_mem_cons hstack
    have hbefore := hstack container List.mem_cons_self
    cases container with
    | list before => exact ⟨List.forall_mem_cons.2 ⟨htree, hbefore⟩, hrest⟩
    | member before key => exact ⟨List.forall_mem_cons.2 ⟨htree, hbefore⟩, hrest⟩

theorem Token.textsAre_value {token : Token} (htoken : ∀ raw, token = .text raw → p raw)
    (hstack : ∀ container ∈ stack, container.TextsAre p) : (token.value stack).TextsAre p := by
  cases token with
  | null => exact textsAre_complete Tree.textsAre_null hstack
  | bool value => exact textsAre_complete (Tree.textsAre_bool value) hstack
  | numeral numeral => exact textsAre_complete (Tree.textsAre_numeral numeral) hstack
  | text raw => exact textsAre_complete (Tree.textsAre_text.2 (htoken raw rfl)) hstack
  | openList => exact hstack
  | openObject => exact ⟨nofun, hstack⟩
  | brokenLiteral atEnd => cases atEnd <;> exact textsAre_breakOff (Tree.textsAre_gap _) hstack
  | _ => exact textsAre_breakOff (Tree.textsAre_gap _) hstack

theorem Stage.textsAre_step {stage : Stage} {token : Token} (hstage : stage.TextsAre p)
    (htoken : ∀ raw, token = .text raw → p raw) : (stage.step token).TextsAre p := by
  cases stage with
  | value stack => exact Token.textsAre_value htoken hstage
  | firstItem stack =>
    by_cases hclose : token = .closeList
    · subst hclose
      exact textsAre_complete (Tree.textsAre_list.2 nofun) hstage
    · rw [step_firstItem hclose]
      exact Token.textsAre_value htoken (List.forall_mem_cons.2 ⟨nofun, hstage⟩)
  | nextItem before stack =>
    by_cases hclose : token = .closeList
    · subst hclose
      exact textsAre_breakOff (textsAre_list_reverse hstage.1 .trailingComma) hstage.2
    · rw [step_nextItem hclose]
      exact Token.textsAre_value htoken (List.forall_mem_cons.2 hstage)
  | afterItem before stack =>
    cases token with
    | comma => exact hstage
    | closeList => exact textsAre_complete (textsAre_list_reverse hstage.1 .closed) hstage.2
    | _ => exact textsAre_breakOff (textsAre_list_reverse hstage.1 .noSeparator) hstage.2
  | nextKey before stack =>
    have hobject (ending : ObjectEnd) := textsAre_object_reverse hstage.1 ending
    cases token with
    | text raw => cases before <;> exact hstage
    | closeObject =>
      cases before with
      | nil => exact textsAre_complete (hobject .closed) hstage.2
      | cons member before => exact textsAre_breakOff (hobject .trailingComma) hstage.2
    | _ => cases before <;> exact textsAre_breakOff (hobject _) hstage.2
  | colon before key stack =>
    have hstack : ∀ container ∈ Open.member before key :: stack, container.TextsAre p :=
      List.forall_mem_cons.2 hstage
    cases token with
    | colon => exact hstack
    | _ => exact textsAre_breakOff (Tree.textsAre_gap _) hstack
  | afterMember before stack =>
    cases token with
    | comma => exact hstage
    | closeObject => exact textsAre_complete (textsAre_object_reverse hstage.1 .closed) hstage.2
    | _ => exact textsAre_breakOff (textsAre_object_reverse hstage.1 .noSeparator) hstage.2

theorem Stage.textsAre_atEnd {stage : Stage} (h : stage.TextsAre p) : stage.atEnd.TextsAre p := by
  cases stage with
  | value stack =>
    have hbroken := textsAre_breakOff (Tree.textsAre_gap .ended) h
    cases stack <;> exact hbroken
  | firstItem stack => exact textsAre_breakOff (Tree.textsAre_list.2 nofun) h
  | nextItem before stack =>
    exact textsAre_breakOff (textsAre_list_reverse h.1 .endedAfterComma) h.2
  | afterItem before stack => exact textsAre_breakOff (textsAre_list_reverse h.1 .ended) h.2
  | nextKey before stack =>
    have hbroken (ending : ObjectEnd) := textsAre_breakOff (textsAre_object_reverse h.1 ending) h.2
    cases before <;> exact hbroken _
  | colon before key stack =>
    exact textsAre_breakOff (Tree.textsAre_gap _) (List.forall_mem_cons.2 h)
  | afterMember before stack => exact textsAre_breakOff (textsAre_object_reverse h.1 .ended) h.2

/-- What is assembled has no strings but those of the tokens. -/
theorem textsAre_assemble {stage : Stage} {tokens : List Token} (hstage : stage.TextsAre p)
    (htokens : ∀ raw, .text raw ∈ tokens → p raw) : (assemble stage tokens).1.TextsAre p := by
  induction tokens generalizing stage with
  | nil => exact Stage.textsAre_atEnd hstage
  | cons token rest ih =>
    have htoken : ∀ raw, token = .text raw → p raw :=
      fun raw heq => htokens raw (heq ▸ List.mem_cons_self)
    have hrest : ∀ raw, .text raw ∈ rest → p raw :=
      fun raw hmem => htokens raw (List.mem_cons_of_mem token hmem)
    have hstep := Stage.textsAre_step hstage htoken
    rw [assemble]
    cases hnext : stage.step token with
    | next stage =>
      rw [hnext] at hstep
      exact ih hstep hrest
    | done tree =>
      rw [hnext] at hstep
      exact hstep

/-- No string of a tree is longer than the text that the tree is read from. -/
theorem Document.textsAre_read (text : Bytes) :
    (Document.read text).root.TextsAre fun raw => raw.width ≤ text.length := by
  have hstart : (Stage.value []).TextsAre fun raw => raw.width ≤ text.length := nofun
  exact textsAre_assemble hstart fun _ => width_le_of_mem_tokens

end EnclaveRegistry.Json
