import EnclaveRegistry.Cbor.Reader
import EnclaveRegistry.Text.Blank

/-! # COSE header maps

A header map may hold each label once. The values of the common labels have forms of their own;
registered numbers are recognised, and what stands under any other label is left alone.
-/
namespace EnclaveRegistry.Cose

open Cbor (Item)

inductive Label where
  | number (value : Int)
  | name (text : String)
  deriving DecidableEq, Inhabited

def isSmall (value : Int) : Bool := -0x8000000000000000 ≤ value && value < 0x8000000000000000

def smallInteger? : Item → Option Int
  | .unsigned value => if isSmall value then some value else none
  | .negative value => if isSmall (-1 - value) then some (-1 - value) else none
  | .tagged tag item =>
    if Item.isBignumTag tag then (Item.bignum? tag item).filter isSmall else none
  | _ => none

def Label.ofItem? : Item → Option Label
  | .text text _ => some (.name text)
  | item => Label.number <$> smallInteger? item

def algorithms : List Int :=
  [-65535, -260, -259, -258, -257, -47, -46, -45, -44, -43, -42, -41, -40, -39, -38, -37, -36, -35,
    -34, -33, -32, -31, -30, -29, -28, -27, -26, -25, -18, -17, -16, -15, -14, -13, -12, -11, -10,
    -8, -7, -6, -5, -4, -3, 0, 1, 2, 3, 4, 5, 6, 7, 10, 11, 12, 13, 14, 15, 24, 25, 26, 30, 31, 32,
    33, 34]

def parameters : List Int :=
  [0, 1, 2, 3, 4, 5, 6, 7, 9, 10, 32, 33, 34, 35, 256, 257]

def contentFormats : List Int :=
  [0, 16, 17, 18, 19, 21, 22, 23, 40, 41, 42, 47, 50, 51, 52, 60, 61, 62, 63, 96, 97, 98, 101, 102,
    110, 111, 112, 113, 114, 115, 256, 271, 272, 280, 281, 282, 283, 284, 285, 286, 287, 310, 311,
    320, 322, 432, 10000, 10001, 11050, 11060, 11542, 11543, 11544, 20000, 30000]

/-- Whether a name is a media type: two parts around one slash, without blanks at either end. -/
def isMediaType (text : String) : Bool :=
  let chars := text.toList
  let blank (c : Option Char) := c.any Text.isBlank
  chars.count '/' == 1 && !blank chars.head? && !blank chars.getLast?

def isAlgorithm : Item → Bool
  | .text _ _ => true
  | item => (smallInteger? item).any fun value => algorithms.contains value || value < -65536

def isParameter : Item → Bool
  | .text _ _ => true
  | item => (smallInteger? item).any parameters.contains

def isCritical : Item → Bool
  | .array items => !items.isEmpty && items.all isParameter
  | _ => false

def isContentType : Item → Bool
  | .text text _ => isMediaType text
  | item => (smallInteger? item).any contentFormats.contains

def isFilledBytes : Item → Bool
  | .bytes content _ => !content.isEmpty
  | _ => false

def labels? (entries : List (Item × Item)) : Option (List Label) :=
  entries.mapM fun entry => Label.ofItem? entry.1

mutual

/-- Whether an item is a header map. Every level of headers inside headers takes one of `fuel`. -/
def isHeader : (fuel : Nat) → Item → Bool
  | fuel + 1, .map entries =>
    match labels? entries with
    | none => false
    | some labels =>
      labels.Nodup && !(labels.contains (.number 5) && labels.contains (.number 6)) &&
        entries.all fun entry =>
          match smallInteger? entry.1 with
          | some 1 => isAlgorithm entry.2
          | some 2 => isCritical entry.2
          | some 3 => isContentType entry.2
          | some 4 => isFilledBytes entry.2
          | some 5 => isFilledBytes entry.2
          | some 6 => isFilledBytes entry.2
          | some 7 => areCountersignatures fuel entry.2
          | _ => true
  | _, _ => false

def areCountersignatures : (fuel : Nat) → Item → Bool
  | fuel + 1, item =>
    match item with
    | .array (.bytes _ _ :: _) => isCountersignature fuel item
    | .array (first :: rest) => (first :: rest).all fun item => isCountersignature fuel item
    | _ => false
  | _, _ => false

def isCountersignature : (fuel : Nat) → Item → Bool
  | fuel + 1, .array [.bytes header _, item, .bytes _ _] =>
    isProtected fuel header && isHeader fuel item
  | _, _ => false

/-- Whether a byte string holds a header map, or nothing. -/
def isProtected : (fuel : Nat) → Bytes → Bool
  | fuel + 1, octets =>
    octets.isEmpty ||
      (Item.readWhole octets).any fun item => item.isPlain 256 && isHeader fuel item
  | _, _ => false

end

end EnclaveRegistry.Cose
