import EnclaveRegistry.Json.Printer
import EnclaveRegistry.Proofs.Json.Numeral
import EnclaveRegistry.Proofs.Json.Text
import Mathlib.Data.List.Forall2

/-! # Written trees are read back

Both forms of a tree, the compact one and the one over lines, are cut into the same tokens, and
the tokens of a tree are assembled to that tree. A text that is written for a tree is therefore
read as this tree, with nothing left over.
-/
namespace EnclaveRegistry.Json

mutual

/-- Whether a tree is one that values are written as: numerals of natural numbers, strings with no
needless escape, and no place where reading has broken off. -/
def Tree.IsWritten : Tree → Prop
  | .null => True
  | .bool _ => True
  | .numeral n => ∃ value, n = .ofNat value
  | .text raw => ∃ octets, raw = .ofBytes octets
  | .list items ending => ItemsWritten items ∧ ending = .closed
  | .object members ending => MembersWritten members ∧ ending = .closed
  | .gap _ => False

def ItemsWritten : List Tree → Prop
  | [] => True
  | tree :: rest => tree.IsWritten ∧ ItemsWritten rest

def MembersWritten : List (RawText × Tree) → Prop
  | [] => True
  | (key, tree) :: rest =>
    (∃ octets, key = .ofBytes octets) ∧ tree.IsWritten ∧ MembersWritten rest

end

theorem itemsWritten_iff {items : List Tree} :
    ItemsWritten items ↔ ∀ tree ∈ items, tree.IsWritten := by
  induction items with
  | nil => simp [ItemsWritten]
  | cons tree rest ih => rw [ItemsWritten, ih, List.forall_mem_cons]

mutual

theorem skipFault?_eq_none : (tree : Tree) → tree.IsWritten → tree.skipFault? = none
  | .null, _ => rfl
  | .bool _, _ => rfl
  | .numeral _, ⟨_, rfl⟩ => rfl
  | .text _, ⟨_, rfl⟩ => rfl
  | .list items _, ⟨hitems, hending⟩ => by
    subst hending
    rw [Tree.skipFault?, skipItems_eq_none items hitems]
    rfl
  | .object members _, ⟨hmembers, hending⟩ => by
    subst hending
    rw [Tree.skipFault?, skipMembers_eq_none members hmembers]
    rfl
  | .gap _, h => h.elim

theorem skipItems_eq_none : (items : List Tree) → ItemsWritten items → skipItems items = none
  | [], _ => rfl
  | tree :: rest, ⟨htree, hrest⟩ => by
    rw [skipItems, skipFault?_eq_none tree htree, skipItems_eq_none rest hrest]
    rfl

theorem skipMembers_eq_none : (members : List (RawText × Tree)) → MembersWritten members →
    skipMembers members = none
  | [], _ => rfl
  | (_, tree) :: rest, ⟨⟨_, rfl⟩, htree, hrest⟩ => by
    rw [skipMembers, skipFault?_eq_none tree htree, skipMembers_eq_none rest hrest]
    rfl

end

/-! ## The tokens of a tree -/

def punctuated : List (List Token) → List Token
  | [] => []
  | part :: rest => part ++ rest.flatMap (Token.comma :: ·)

mutual

/-- The tokens that a tree is written in. -/
def Tree.tokens : Tree → List Token
  | .null => [.null]
  | .bool value => [.bool value]
  | .numeral n => [.numeral n]
  | .text raw => [.text raw]
  | .list items _ => .openList :: (punctuated (itemTokens items) ++ [.closeList])
  | .object members _ => .openObject :: (punctuated (memberTokens members) ++ [.closeObject])
  | .gap _ => []

def itemTokens : List Tree → List (List Token)
  | [] => []
  | tree :: rest => tree.tokens :: itemTokens rest

def memberTokens : List (RawText × Tree) → List (List Token)
  | [] => []
  | (key, tree) :: rest => (.text key :: .colon :: tree.tokens) :: memberTokens rest

end

/-! ## Cutting a text into tokens -/

theorem tokens_cons {b : UInt8} {rest after : Bytes} {token : Token} (hblank : isBlank b = false)
    (hread : Token.read b rest = (token, after)) (hlast : token.isLast = false) :
    tokens (b :: rest) = token :: tokens after := by
  rw [tokens]
  simp only [hblank, hread, hlast, Bool.false_eq_true, if_false]

theorem tokens_blanks {blanks : Bytes} (h : ∀ b ∈ blanks, isBlank b = true) (rest : Bytes) :
    tokens (blanks ++ rest) = tokens rest := by
  induction blanks with
  | nil => rfl
  | cons b blanks ih =>
    rw [List.cons_append, tokens, if_pos (h b List.mem_cons_self)]
    exact ih fun other hother => h other (List.mem_cons_of_mem b hother)

theorem eq_of_isBlank {b : UInt8} (h : isBlank b = true) : b = 32 ∨ b = 10 ∨ b = 9 ∨ b = 13 := by
  simpa [isBlank, or_assoc] using h

theorem stops_blanks {blanks rest : Bytes} (h : ∀ b ∈ blanks, isBlank b = true)
    (hrest : Numeral.Stops rest) : Numeral.Stops (blanks ++ rest) := by
  cases blanks with
  | nil => exact hrest
  | cons b blanks =>
    intro octet hoctet
    obtain rfl : b = octet := Option.some.inj hoctet
    rcases eq_of_isBlank (h b List.mem_cons_self) with rfl | rfl | rfl | rfl <;> decide

theorem isBlank_of_mem_newline {level : Nat} {b : UInt8} (h : b ∈ newline level) :
    isBlank b = true := by
  rcases List.mem_cons.1 h with rfl | h
  · rfl
  · obtain ⟨-, rfl⟩ := List.mem_replicate.1 h
    rfl

/-- Whether an octet is a token of its own and ends any numeral before it. -/
def Delimits (octet : UInt8) (token : Token) : Prop :=
  ∀ rest, tokens (octet :: rest) = token :: tokens rest ∧ Numeral.Stops (octet :: rest)

theorem delimits {octet : UInt8} {token : Token} (hblank : isBlank octet = false)
    (hread : ∀ rest, Token.read octet rest = (token, rest)) (hlast : token.isLast = false)
    (hstops : Decimal.isDigit octet = false ∧ octet ≠ 46 ∧ octet ≠ 101 ∧ octet ≠ 69) :
    Delimits octet token := by
  refine fun rest => ⟨tokens_cons hblank (hread rest) hlast, ?_⟩
  intro other hother
  obtain rfl : octet = other := Option.some.inj hother
  exact hstops

theorem delimits_openList : Delimits 91 .openList :=
  delimits rfl (fun _ => rfl) rfl (by decide)

theorem delimits_closeList : Delimits 93 .closeList :=
  delimits rfl (fun _ => rfl) rfl (by decide)

theorem delimits_openObject : Delimits 123 .openObject :=
  delimits rfl (fun _ => rfl) rfl (by decide)

theorem delimits_closeObject : Delimits 125 .closeObject :=
  delimits rfl (fun _ => rfl) rfl (by decide)

theorem delimits_comma : Delimits 44 .comma :=
  delimits rfl (fun _ => rfl) rfl (by decide)

theorem delimits_colon : Delimits 58 .colon :=
  delimits rfl (fun _ => rfl) rfl (by decide)

/-- Whether a text is cut into the given tokens wherever no numeral goes on behind it. -/
def Reads (text : Bytes) (read : List Token) : Prop :=
  ∀ rest, Numeral.Stops rest → tokens (text ++ rest) = read ++ tokens rest

theorem readLiteral_append (token : Token) (letters rest : Bytes) :
    Token.readLiteral token letters (letters ++ rest) = (token, rest) := by
  induction letters with
  | nil => rfl
  | cons letter letters ih =>
    rw [List.cons_append, Token.readLiteral, if_pos rfl]
    exact ih

theorem reads_null : Reads (Tree.compact .null) [.null] := fun rest _ =>
  tokens_cons rfl (readLiteral_append .null [117, 108, 108] rest) rfl

theorem reads_bool (value : Bool) : Reads (Tree.compact (.bool value)) [.bool value] := by
  intro rest _
  cases value with
  | true => exact tokens_cons rfl (readLiteral_append (.bool true) [114, 117, 101] rest) rfl
  | false => exact tokens_cons rfl (readLiteral_append (.bool false) [97, 108, 115, 101] rest) rfl

theorem tokens_text (octets rest : Bytes) :
    tokens ((RawText.ofBytes octets).text ++ rest) =
      .text (.ofBytes octets) :: tokens rest := by
  refine tokens_cons rfl ?_ rfl
  have hread := RawText.read_ofBytes octets rest
  change (Token.text (RawText.read (_ ++ [34] ++ rest)).1, (RawText.read (_ ++ [34] ++ rest)).2) = _
  rw [hread]

theorem read_digit {b : UInt8} (h : Decimal.isDigit b = true) (rest : Bytes) :
    Token.read b rest = (.numeral (Numeral.readUnsigned false (b :: rest)).1,
      (Numeral.readUnsigned false (b :: rest)).2) := by
  have hrange : 48 ≤ b.toNat ∧ b.toNat ≤ 57 := by simpa [Decimal.isDigit] using h
  unfold Token.read
  split <;> first | omega | rw [if_pos h]

theorem reads_numeral (value : Nat) :
    Reads (Numeral.ofNat value).text [.numeral (.ofNat value)] := by
  intro rest hrest
  have htext : (Numeral.ofNat value).text = Decimal.ofNat value := by
    simp [Numeral.text, Numeral.ofNat]
  have hread := Numeral.readUnsigned_ofNat value hrest
  obtain ⟨first, digits, heq⟩ := List.exists_cons_of_ne_nil (Decimal.ofNat_ne_nil value)
  have hdigit : Decimal.isDigit first = true :=
    Decimal.isDigit_of_mem_ofNat (heq ▸ List.mem_cons_self)
  have hblank : isBlank first = false := by
    by_contra h
    rcases eq_of_isBlank (Bool.not_eq_false _ ▸ h) with rfl | rfl | rfl | rfl <;>
      exact absurd hdigit (by decide)
  rw [heq, List.cons_append] at hread
  rw [htext, heq, List.cons_append]
  exact tokens_cons hblank ((read_digit hdigit _).trans (by rw [hread])) rfl

/-! ## Containers -/

theorem joined_cons (separator part : Bytes) (rest : List Bytes) :
    joined separator (part :: rest) = part ++ rest.flatMap (separator ++ ·) := by
  induction rest generalizing part with
  | nil => simp [joined]
  | cons next rest ih => rw [joined, ih next, List.flatMap_cons, List.append_assoc,
      List.append_assoc]

theorem reads_joined {blanks : Bytes} (hblanks : ∀ b ∈ blanks, isBlank b = true)
    {parts : List Bytes} {readings : List (List Token)} (h : List.Forall₂ Reads parts readings) :
    Reads (joined (44 :: blanks) parts) (punctuated readings) := by
  have hcomma (rest : Bytes) : tokens (44 :: blanks ++ rest) = .comma :: tokens rest := by
    rw [List.cons_append, (delimits_comma _).1, tokens_blanks hblanks]
  have hstops (rest : Bytes) : Numeral.Stops (44 :: blanks ++ rest) := (delimits_comma _).2
  have htail : ∀ {parts : List Bytes} {readings : List (List Token)},
      List.Forall₂ Reads parts readings → ∀ rest, Numeral.Stops rest →
        Numeral.Stops (parts.flatMap (44 :: blanks ++ ·) ++ rest) ∧
          tokens (parts.flatMap (44 :: blanks ++ ·) ++ rest) =
            readings.flatMap (Token.comma :: ·) ++ tokens rest := by
    intro parts readings h rest hrest
    induction h with
    | nil => exact ⟨hrest, rfl⟩
    | cons hpart _ ih =>
      rw [List.flatMap_cons, List.append_assoc, List.append_assoc]
      refine ⟨hstops _, ?_⟩
      rw [hcomma, hpart _ ih.1, ih.2, List.flatMap_cons, List.append_assoc]
      rfl
  intro rest hrest
  cases h with
  | nil => rfl
  | cons hpart hparts =>
    obtain ⟨hstops, hread⟩ := htail hparts rest hrest
    rw [joined_cons, List.append_assoc, hpart _ hstops, hread, punctuated, List.append_assoc]

/-- A container is read from its delimiters and its parts, whatever blanks stand between them. -/
theorem reads_container {opening closing : UInt8} {first last : Token}
    (hopening : Delimits opening first) (hclosing : Delimits closing last)
    {before between after : Bytes} (hbefore : ∀ b ∈ before, isBlank b = true)
    (hbetween : ∀ b ∈ between, isBlank b = true) (hafter : ∀ b ∈ after, isBlank b = true)
    {parts : List Bytes} {readings : List (List Token)} (h : List.Forall₂ Reads parts readings) :
    Reads (opening :: before ++ joined (44 :: between) parts ++ after ++ [closing])
      (first :: (punctuated readings ++ [last])) := by
  intro rest _
  have hstops : Numeral.Stops (after ++ closing :: rest) :=
    stops_blanks hafter (hclosing rest).2
  have hparts := reads_joined hbetween h (after ++ closing :: rest) hstops
  simp only [List.append_assoc, List.cons_append, List.nil_append]
  rw [(hopening _).1, tokens_blanks hbefore, hparts, tokens_blanks hafter, (hclosing rest).1]

theorem reads_member (octets : Bytes) {blanks text : Bytes} {read : List Token}
    (hblanks : ∀ b ∈ blanks, isBlank b = true) (h : Reads text read) :
    Reads ((RawText.ofBytes octets).text ++ (58 :: blanks ++ text))
      (.text (.ofBytes octets) :: .colon :: read) := by
  intro rest hrest
  rw [List.append_assoc, tokens_text, List.append_assoc, List.cons_append,
    (delimits_colon _).1, tokens_blanks hblanks, h rest hrest]
  rfl

theorem reads_compact_container {opening closing : UInt8} {first last : Token}
    (hopening : Delimits opening first) (hclosing : Delimits closing last) {parts : List Bytes}
    {readings : List (List Token)} (h : List.Forall₂ Reads parts readings) :
    Reads (opening :: joined [44] parts ++ [closing])
      (first :: (punctuated readings ++ [last])) := by
  have hnone : ∀ b ∈ ([] : Bytes), isBlank b = true := by simp
  have hread := reads_container hopening hclosing hnone hnone hnone h
  rwa [List.append_nil] at hread

theorem reads_enclosed {opening closing : UInt8} {first last : Token} (level : Nat)
    (hopening : Delimits opening first) (hclosing : Delimits closing last) {parts : List Bytes}
    {readings : List (List Token)} (h : List.Forall₂ Reads parts readings) :
    Reads (enclosed opening closing level parts) (first :: (punctuated readings ++ [last])) := by
  cases h with
  | nil => exact reads_compact_container hopening hclosing .nil
  | cons hpart hparts =>
    have hnewline (level : Nat) : ∀ b ∈ newline level, isBlank b = true :=
      fun b => isBlank_of_mem_newline
    rw [enclosed, if_neg (by simp)]
    exact reads_container hopening hclosing (hnewline _) (hnewline _) (hnewline _)
      (.cons hpart hparts)

/-! ## The two forms of a tree -/

mutual

theorem reads_compact : (tree : Tree) → tree.IsWritten → Reads tree.compact tree.tokens
  | .null, _ => reads_null
  | .bool value, _ => reads_bool value
  | .numeral _, ⟨value, rfl⟩ => reads_numeral value
  | .text _, ⟨octets, rfl⟩ => fun rest _ => tokens_text octets rest
  | .list items _, ⟨hitems, _⟩ => by
    rw [Tree.compact, Tree.tokens]
    exact reads_compact_container delimits_openList delimits_closeList
      (reads_compactItems items hitems)
  | .object members _, ⟨hmembers, _⟩ => by
    rw [Tree.compact, Tree.tokens]
    exact reads_compact_container delimits_openObject delimits_closeObject
      (reads_compactMembers members hmembers)

theorem reads_compactItems : (items : List Tree) → ItemsWritten items →
    List.Forall₂ Reads (compactItems items) (itemTokens items)
  | [], _ => .nil
  | tree :: rest, ⟨htree, hrest⟩ => .cons (reads_compact tree htree) (reads_compactItems rest hrest)

theorem reads_compactMembers : (members : List (RawText × Tree)) → MembersWritten members →
    List.Forall₂ Reads (compactMembers members) (memberTokens members)
  | [], _ => .nil
  | (_, tree) :: rest, ⟨⟨octets, rfl⟩, htree, hrest⟩ =>
    have hnone : ∀ b ∈ ([] : Bytes), isBlank b = true := by simp
    .cons (reads_member octets hnone (reads_compact tree htree)) (reads_compactMembers rest hrest)

end

mutual

theorem reads_layOut (level : Nat) : (tree : Tree) → tree.IsWritten →
    Reads (tree.layOut level) tree.tokens
  | .null, _ => by
    rw [Tree.layOut]
    exact reads_null
  | .bool value, _ => by
    rw [Tree.layOut]
    exact reads_bool value
  | .numeral _, ⟨value, rfl⟩ => by
    rw [Tree.layOut]
    exact reads_numeral value
  | .text _, ⟨octets, rfl⟩ => by
    rw [Tree.layOut]
    exact fun rest _ => tokens_text octets rest
  | .list items _, ⟨hitems, _⟩ => by
    rw [Tree.layOut, Tree.tokens]
    exact reads_enclosed level delimits_openList delimits_closeList
      (reads_layOutItems (level + 1) items hitems)
  | .object members _, ⟨hmembers, _⟩ => by
    rw [Tree.layOut, Tree.tokens]
    exact reads_enclosed level delimits_openObject delimits_closeObject
      (reads_layOutMembers (level + 1) members hmembers)

theorem reads_layOutItems (level : Nat) : (items : List Tree) → ItemsWritten items →
    List.Forall₂ Reads (layOutItems level items) (itemTokens items)
  | [], _ => .nil
  | tree :: rest, ⟨htree, hrest⟩ =>
    .cons (reads_layOut level tree htree) (reads_layOutItems level rest hrest)

theorem reads_layOutMembers (level : Nat) : (members : List (RawText × Tree)) →
    MembersWritten members →
      List.Forall₂ Reads (layOutMembers level members) (memberTokens members)
  | [], _ => .nil
  | (_, tree) :: rest, ⟨⟨octets, rfl⟩, htree, hrest⟩ => by
    have hblank : ∀ b ∈ ([32] : Bytes), isBlank b = true := by simp [isBlank]
    have hmember := reads_member octets hblank (reads_layOut level tree htree)
    rw [layOutMembers, List.append_assoc]
    exact .cons hmember (reads_layOutMembers level rest hrest)

end

/-! ## Assembling the tokens of a tree -/

def Step.resume (rest : List Token) : Step → Tree × List Token
  | .next stage => assemble stage rest
  | .done tree => (tree, rest)

theorem assemble_cons (stage : Stage) (token : Token) (rest : List Token) :
    assemble stage (token :: rest) = (stage.step token).resume rest := by
  rw [assemble]
  cases stage.step token <;> rfl

theorem exists_tokens_eq_cons {tree : Tree} (h : tree.IsWritten) :
    ∃ first rest, tree.tokens = first :: rest ∧ first ≠ .closeList := by
  cases tree with
  | null => exact ⟨.null, [], rfl, by simp⟩
  | bool value => exact ⟨.bool value, [], rfl, by simp⟩
  | numeral n => exact ⟨.numeral n, [], rfl, by simp⟩
  | text raw => exact ⟨.text raw, [], rfl, by simp⟩
  | list items ending => exact ⟨.openList, _, by rw [Tree.tokens], by simp⟩
  | object members ending => exact ⟨.openObject, _, by rw [Tree.tokens], by simp⟩
  | gap gap => exact absurd h (by simp [Tree.IsWritten])

theorem step_firstItem {token : Token} (h : token ≠ .closeList) (stack : List Open) :
    (Stage.firstItem stack).step token = (Stage.value (.list [] :: stack)).step token := by
  cases token <;> first | rfl | exact absurd rfl h

theorem step_nextItem {token : Token} (h : token ≠ .closeList) (before : List Tree)
    (stack : List Open) :
    (Stage.nextItem before stack).step token =
      (Stage.value (.list before :: stack)).step token := by
  cases token <;> first | rfl | exact absurd rfl h

theorem assemble_firstItem {tree : Tree} (h : tree.IsWritten) (stack : List Open)
    (rest : List Token) : assemble (.firstItem stack) (tree.tokens ++ rest) =
      assemble (.value (.list [] :: stack)) (tree.tokens ++ rest) := by
  obtain ⟨first, others, heq, hne⟩ := exists_tokens_eq_cons h
  rw [heq, List.cons_append, assemble_cons, assemble_cons, step_firstItem hne]

theorem assemble_nextItem {tree : Tree} (h : tree.IsWritten) (before : List Tree)
    (stack : List Open) (rest : List Token) :
    assemble (.nextItem before stack) (tree.tokens ++ rest) =
      assemble (.value (.list before :: stack)) (tree.tokens ++ rest) := by
  obtain ⟨first, others, heq, hne⟩ := exists_tokens_eq_cons h
  rw [heq, List.cons_append, assemble_cons, assemble_cons, step_nextItem hne]

theorem assemble_member (before : List (RawText × Tree)) (key : RawText) (stack : List Open)
    (rest : List Token) :
    assemble (.nextKey before stack) (.text key :: .colon :: rest) =
      assemble (.value (.member before key :: stack)) rest := by
  have hkey : (Stage.nextKey before stack).step (.text key) = .next (.colon before key stack) := by
    cases before <;> rfl
  rw [assemble_cons, hkey, Step.resume, assemble_cons]
  rfl

-- The stack is arbitrary, since the parts of a container are assembled with the container on top.
mutual

/-- The tokens of a tree complete that tree inside whatever containers are open. -/
theorem assemble_tokens : (tree : Tree) → tree.IsWritten → (stack : List Open) →
    (rest : List Token) →
      assemble (.value stack) (tree.tokens ++ rest) = (complete tree stack).resume rest
  | .null, _, stack, rest => assemble_cons (.value stack) .null rest
  | .bool value, _, stack, rest => assemble_cons (.value stack) (.bool value) rest
  | .numeral n, _, stack, rest => assemble_cons (.value stack) (.numeral n) rest
  | .text raw, _, stack, rest => assemble_cons (.value stack) (.text raw) rest
  | .list [] _, ⟨_, hending⟩, stack, rest => by
    subst hending
    exact assemble_cons (.firstItem stack) .closeList rest
  | .list (item :: items) _, ⟨⟨hitem, hitems⟩, hending⟩, stack, rest => by
    subst hending
    have hrest := assemble_itemTokens items hitems [item] stack rest
    rw [Tree.tokens, itemTokens, punctuated, List.cons_append, assemble_cons]
    change assemble (.firstItem stack) _ = _
    rw [List.append_assoc, List.append_assoc, assemble_firstItem hitem, assemble_tokens item hitem]
    exact hrest
  | .object [] _, ⟨_, hending⟩, stack, rest => by
    subst hending
    exact assemble_cons (.nextKey [] stack) .closeObject rest
  | .object ((key, tree) :: members) _, ⟨⟨_, htree, hmembers⟩, hending⟩, stack, rest => by
    subst hending
    have hrest := assemble_memberTokens members hmembers [(key, tree)] stack rest
    rw [Tree.tokens, memberTokens, punctuated, List.cons_append, assemble_cons]
    change assemble (.nextKey [] stack) _ = _
    rw [List.append_assoc, List.append_assoc, List.cons_append, List.cons_append, assemble_member,
      assemble_tokens tree htree]
    exact hrest
  | .gap _, h, _, _ => h.elim

theorem assemble_itemTokens : (items : List Tree) → ItemsWritten items → (before : List Tree) →
    (stack : List Open) → (rest : List Token) →
      assemble (.afterItem before stack)
          ((itemTokens items).flatMap (Token.comma :: ·) ++ ([.closeList] ++ rest)) =
        (complete (.list (before.reverse ++ items) .closed) stack).resume rest
  | [], _, before, stack, rest => by
    rw [List.append_nil]
    exact assemble_cons (.afterItem before stack) .closeList rest
  | item :: items, ⟨hitem, hitems⟩, before, stack, rest => by
    have hrest := assemble_itemTokens items hitems (item :: before) stack rest
    rw [List.reverse_cons, List.append_assoc, List.singleton_append] at hrest
    rw [itemTokens, List.flatMap_cons, List.append_assoc, List.cons_append, assemble_cons]
    change assemble (.nextItem before stack) _ = _
    rw [assemble_nextItem hitem, assemble_tokens item hitem]
    exact hrest

theorem assemble_memberTokens : (members : List (RawText × Tree)) → MembersWritten members →
    (before : List (RawText × Tree)) → (stack : List Open) → (rest : List Token) →
      assemble (.afterMember before stack)
          ((memberTokens members).flatMap (Token.comma :: ·) ++ ([.closeObject] ++ rest)) =
        (complete (.object (before.reverse ++ members) .closed) stack).resume rest
  | [], _, before, stack, rest => by
    rw [List.append_nil]
    exact assemble_cons (.afterMember before stack) .closeObject rest
  | (key, tree) :: members, ⟨_, htree, hmembers⟩, before, stack, rest => by
    have hrest := assemble_memberTokens members hmembers ((key, tree) :: before) stack rest
    rw [List.reverse_cons, List.append_assoc, List.singleton_append] at hrest
    rw [memberTokens, List.flatMap_cons, List.append_assoc, List.cons_append, assemble_cons]
    change assemble (.nextKey before stack) _ = _
    rw [List.cons_append, List.cons_append, assemble_member, assemble_tokens tree htree]
    exact hrest

end

/-! ## Documents -/

theorem read_of_reads {text : Bytes} {tree : Tree} (htree : tree.IsWritten)
    (h : Reads text tree.tokens) : Document.read text = ⟨tree, false⟩ := by
  have hend : Numeral.Stops [] := by simp [Numeral.Stops]
  have htokens := h [] hend
  rw [List.append_nil] at htokens
  rw [Document.read, htokens, assemble_tokens tree htree, tokens]
  rfl

theorem Document.read_compact {tree : Tree} (h : tree.IsWritten) :
    Document.read tree.compact = ⟨tree, false⟩ :=
  read_of_reads h (reads_compact tree h)

theorem Document.read_pretty {tree : Tree} (h : tree.IsWritten) :
    Document.read tree.pretty = ⟨tree, false⟩ :=
  read_of_reads h (reads_layOut 0 tree h)

end EnclaveRegistry.Json
