import EnclaveRegistry.Bytes

/-! # CBOR items

A CBOR text is a sequence of items. An item keeps whether its string was sent in one piece or in
chunks and which tags stand before it, because readers differ in what they let pass.
-/
namespace EnclaveRegistry.Cbor

/-- An item. `negative n` stands for `-1 - n`; a float is kept as the octets it was sent in. -/
inductive Item where
  | unsigned (value : Nat)
  | negative (value : Nat)
  | bytes (content : Bytes) (chunked : Bool)
  | text (content : String) (chunked : Bool)
  | array (items : List Item)
  | map (entries : List (Item × Item))
  | tagged (tag : Nat) (item : Item)
  | simple (value : Nat)
  | float (octets : Bytes)
  deriving Inhabited

namespace Item

def untagged : Item → Item
  | tagged _ item => untagged item
  | item => item

def isNull : Item → Bool
  | simple value => value == 22 || value == 23
  | _ => false

/-- The integer of a tagged byte string: at most sixteen octets behind leading zeros, and for tag 3
counted down from minus one within 128 bits. -/
def bignum? (tag : Nat) : Item → Option Int
  | bytes content _ =>
    let digits := content.dropWhile (· == 0)
    let value := Bytes.toNatBE digits
    if 16 < digits.length then none
    else if tag = 2 then some value
    else if value < 1 <<< 127 then some (-1 - value)
    else none
  | _ => none

def isBignumTag (tag : Nat) : Bool := tag == 2 || tag == 3

/-- The integer of an item; other tags before it are dropped. -/
def integer? : Item → Option Int
  | unsigned value => some value
  | negative value => some (-1 - value)
  | tagged tag item => if isBignumTag tag then bignum? tag item else integer? item
  | _ => none

mutual

/-- Whether all simple values and bignums inside are known, and containers and tags nest no deeper
than `levels`. -/
def isPlain (levels : Nat) : Item → Bool
  | unsigned _ => true
  | negative _ => true
  | bytes _ _ => true
  | text _ _ => true
  | array items => 0 < levels && arePlain (levels - 1) items
  | map entries => 0 < levels && haveTwoPlain (levels - 1) entries
  | tagged tag item =>
    if isBignumTag tag then (bignum? tag item).isSome
    else 0 < levels && isPlain (levels - 1) item
  | simple value => 20 ≤ value && value ≤ 23
  | float _ => true

def arePlain (levels : Nat) : List Item → Bool
  | [] => true
  | item :: rest => isPlain levels item && arePlain levels rest

def haveTwoPlain (levels : Nat) : List (Item × Item) → Bool
  | [] => true
  | (key, value) :: rest =>
    isPlain levels key && isPlain levels value && haveTwoPlain levels rest

end

end Item
end EnclaveRegistry.Cbor
