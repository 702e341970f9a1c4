import EnclaveRegistry.Json.Token

/-! # Trees of JSON texts

Every text is read as a tree. Where the text stops being JSON the tree has a gap, and behind a gap
nothing is read; a walk through the tree in reading order therefore meets the first fault of the
text unless it stops before. Trees are assembled from tokens with a stack of open containers.
-/
namespace EnclaveRegistry.Json

/-- What stands where a value is due and none can be read. -/
inductive Gap where
  | ended
  | absent
  | literalEnded
  | literalBroken
  | noColon
  | endedBeforeColon
  deriving DecidableEq, Inhabited

inductive ListEnd where
  | closed
  | ended
  | noSeparator
  | trailingComma
  | endedAfterComma
  deriving DecidableEq, Inhabited

/-- How an object ends: closed, or where reading breaks off; `noKey` holds the token that stands in
place of a key. -/
inductive ObjectEnd where
  | closed
  | ended
  | noSeparator
  | trailingComma
  | endedAfterComma
  | noKey (found : Token)
  deriving DecidableEq, Inhabited

/-- A text as read, gaps included. -/
inductive Tree where
  | null
  | bool (value : Bool)
  | numeral (numeral : Numeral)
  | text (raw : RawText)
  | list (items : List Tree) (ending : ListEnd)
  | object (members : List (RawText × Tree)) (ending : ObjectEnd)
  | gap (gap : Gap)
  deriving Inhabited

/-- A container that is open while one of its values is read; what came before is kept in
reverse. -/
inductive Open where
  | list (before : List Tree)
  | member (before : List (RawText × Tree)) (key : RawText)

inductive Stage where
  | value (stack : List Open)
  | firstItem (stack : List Open)
  | nextItem (before : List Tree) (stack : List Open)
  | nextKey (before : List (RawText × Tree)) (stack : List Open)
  | colon (before : List (RawText × Tree)) (key : RawText) (stack : List Open)
  | afterItem (before : List Tree) (stack : List Open)
  | afterMember (before : List (RawText × Tree)) (stack : List Open)

inductive Step where
  | next (stage : Stage)
  | done (tree : Tree)

/-- Closes every open container around a tree behind which nothing can be read. -/
def breakOff (tree : Tree) : List Open → Tree
  | [] => tree
  | .list before :: stack => breakOff (.list (tree :: before).reverse .ended) stack
  | .member before key :: stack => breakOff (.object ((key, tree) :: before).reverse .ended) stack

def complete (tree : Tree) : List Open → Step
  | [] => .done tree
  | .list before :: stack => .next (.afterItem (tree :: before) stack)
  | .member before key :: stack => .next (.afterMember ((key, tree) :: before) stack)

def Token.value (stack : List Open) : Token → Step
  | .null => complete .null stack
  | .bool value => complete (.bool value) stack
  | .numeral n => complete (.numeral n) stack
  | .text raw => complete (.text raw) stack
  | .openList => .next (.firstItem stack)
  | .openObject => .next (.nextKey [] stack)
  | .brokenLiteral true => .done (breakOff (.gap .literalEnded) stack)
  | .brokenLiteral false => .done (breakOff (.gap .literalBroken) stack)
  | _ => .done (breakOff (.gap .absent) stack)

namespace Stage

def step : Stage → Token → Step
  | value stack, token => token.value stack
  | firstItem stack, .closeList => complete (.list [] .closed) stack
  | firstItem stack, token => token.value (.list [] :: stack)
  | nextItem before stack, .closeList =>
    .done (breakOff (.list before.reverse .trailingComma) stack)
  | nextItem before stack, token => token.value (.list before :: stack)
  | nextKey before stack, .text raw => .next (.colon before raw stack)
  | nextKey [] stack, .closeObject => complete (.object [] .closed) stack
  | nextKey before stack, .closeObject =>
    .done (breakOff (.object before.reverse .trailingComma) stack)
  | nextKey before stack, token => .done (breakOff (.object before.reverse (.noKey token)) stack)
  | colon before key stack, .colon => .next (.value (.member before key :: stack))
  | colon before key stack, _ => .done (breakOff (.gap .noColon) (.member before key :: stack))
  | afterItem before stack, .comma => .next (.nextItem before stack)
  | afterItem before stack, .closeList => complete (.list before.reverse .closed) stack
  | afterItem before stack, _ => .done (breakOff (.list before.reverse .noSeparator) stack)
  | afterMember before stack, .comma => .next (.nextKey before stack)
  | afterMember before stack, .closeObject => complete (.object before.reverse .closed) stack
  | afterMember before stack, _ =>
    .done (breakOff (.object before.reverse .noSeparator) stack)

def atEnd : Stage → Tree
  | value [] => .gap .ended
  | value stack => breakOff (.gap .ended) stack
  | firstItem stack => breakOff (.list [] .ended) stack
  | nextItem before stack => breakOff (.list before.reverse .endedAfterComma) stack
  | nextKey [] stack => breakOff (.object [] .ended) stack
  | nextKey before stack => breakOff (.object before.reverse .endedAfterComma) stack
  | colon before key stack => breakOff (.gap .endedBeforeColon) (.member before key :: stack)
  | afterItem before stack => breakOff (.list before.reverse .ended) stack
  | afterMember before stack => breakOff (.object before.reverse .ended) stack

end Stage

def assemble : Stage → List Token → Tree × List Token
  | stage, [] => (stage.atEnd, [])
  | stage, token :: rest =>
    match stage.step token with
    | .next stage => assemble stage rest
    | .done tree => (tree, rest)

structure Document where
  root : Tree
  trailing : Bool

def Document.read (text : Bytes) : Document :=
  let (root, rest) := assemble (.value []) (tokens text)
  ⟨root, !rest.isEmpty⟩

def Gap.fault : Gap → Fault
  | ended => .valueEnd
  | absent => .expectedValue
  | literalEnded => .valueEnd
  | literalBroken => .expectedLiteral
  | noColon => .expectedColon
  | endedBeforeColon => .objectEnd

namespace ListEnd

def fault? : ListEnd → Option Fault
  | closed => none
  | ended => some .listEnd
  | noSeparator => some .expectedListSeparator
  | trailingComma => some .trailingComma
  | endedAfterComma => some .valueEnd

def skipFault? : ListEnd → Option Fault
  | closed => none
  | ended => some .listEnd
  | noSeparator => some .expectedListSeparator
  | trailingComma => some .expectedValue
  | endedAfterComma => some .valueEnd

def surplusFault? : ListEnd → Option Fault
  | closed => none
  | ended => some .listEnd
  | trailingComma => some .trailingComma
  | _ => some .trailingCharacters

end ListEnd

namespace ObjectEnd

def fault? : ObjectEnd → Option Fault
  | closed => none
  | ended => some .objectEnd
  | noSeparator => some .expectedObjectSeparator
  | trailingComma => some .trailingComma
  | endedAfterComma => some .valueEnd
  | noKey _ => some .keyNotString

def skipFault? : ObjectEnd → Option Fault
  | closed => none
  | ended => some .objectEnd
  | noSeparator => some .expectedObjectSeparator
  | trailingComma => some .keyNotString
  | endedAfterComma => some .objectEnd
  | noKey _ => some .keyNotString

end ObjectEnd

mutual

/-- The first fault of a tree that is skipped, if any. Strings are not decoded and numerals not
valued. -/
def Tree.skipFault? : Tree → Option Fault
  | .null => none
  | .bool _ => none
  | .numeral numeral => numeral.skipFault?
  | .text raw => raw.skipFault?
  | .list items ending => (skipItems items).or ending.skipFault?
  | .object members ending => (skipMembers members).or ending.skipFault?
  | .gap gap => some gap.fault

def skipItems : List Tree → Option Fault
  | [] => none
  | tree :: rest => (Tree.skipFault? tree).or (skipItems rest)

def skipMembers : List (RawText × Tree) → Option Fault
  | [] => none
  | (key, tree) :: rest => (key.skipFault?.or (Tree.skipFault? tree)).or (skipMembers rest)

end

end EnclaveRegistry.Json
