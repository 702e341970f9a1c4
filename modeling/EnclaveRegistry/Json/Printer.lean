import EnclaveRegistry.Json.Tree

/-! # Written form of JSON trees

A tree without gaps is written compactly, or laid out over lines with two blanks for each level.
An empty list or object stays on one line in both forms. Nothing is written for a gap.
-/
namespace EnclaveRegistry.Json

def joined (separator : Bytes) : List Bytes → Bytes
  | [] => []
  | [part] => part
  | part :: next :: rest => part ++ separator ++ joined separator (next :: rest)

mutual

def Tree.compact : Tree → Bytes
  | .null => [110, 117, 108, 108]
  | .bool true => [116, 114, 117, 101]
  | .bool false => [102, 97, 108, 115, 101]
  | .numeral n => n.text
  | .text raw => raw.text
  | .list items _ => 91 :: joined [44] (compactItems items) ++ [93]
  | .object members _ => 123 :: joined [44] (compactMembers members) ++ [125]
  | .gap _ => []

def compactItems : List Tree → List Bytes
  | [] => []
  | tree :: rest => Tree.compact tree :: compactItems rest

def compactMembers : List (RawText × Tree) → List Bytes
  | [] => []
  | (key, tree) :: rest => (key.text ++ 58 :: Tree.compact tree) :: compactMembers rest

end

def newline (level : Nat) : Bytes := 10 :: List.replicate (2 * level) 32

/-- Lays out the parts of a container whose own level is `level` between its delimiters. -/
def enclosed (opening closing : UInt8) (level : Nat) (parts : List Bytes) : Bytes :=
  if parts.isEmpty then [opening, closing]
  else
    opening :: newline (level + 1) ++ joined (44 :: newline (level + 1)) parts ++
      newline level ++ [closing]

mutual

/-- The form of a tree over lines, as it stands at a level. -/
def Tree.layOut (level : Nat) : Tree → Bytes
  | .list items _ => enclosed 91 93 level (layOutItems (level + 1) items)
  | .object members _ => enclosed 123 125 level (layOutMembers (level + 1) members)
  | .null => Tree.compact .null
  | .bool value => Tree.compact (.bool value)
  | .numeral n => Tree.compact (.numeral n)
  | .text raw => Tree.compact (.text raw)
  | .gap _ => []

def layOutItems (level : Nat) : List Tree → List Bytes
  | [] => []
  | tree :: rest => Tree.layOut level tree :: layOutItems level rest

def layOutMembers (level : Nat) : List (RawText × Tree) → List Bytes
  | [] => []
  | (key, tree) :: rest =>
    (key.text ++ [58, 32] ++ Tree.layOut level tree) :: layOutMembers level rest

end

def Tree.pretty (tree : Tree) : Bytes := tree.layOut 0

end EnclaveRegistry.Json
