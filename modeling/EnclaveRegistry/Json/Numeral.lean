import EnclaveRegistry.Json.Fault
import EnclaveRegistry.Decimal.Shortest

/-! # Numerals of JSON texts

A numeral is kept as it is written: sign, whole part, fraction and exponent. Its value is a
natural number, a negative integer or a double, whichever comes first; a whole number beyond 64
bits is a double.
-/
namespace EnclaveRegistry.Json

/-- Where a numeral breaks off: at a part that needs a digit, with or without text behind it, or
at a digit after a leading zero. -/
inductive NumeralDefect where
  | leadingZero
  | noDigit (atEnd : Bool)
  deriving DecidableEq, Inhabited

structure Exponent where
  letter : UInt8
  sign : Option UInt8
  digits : Bytes
  deriving DecidableEq, Inhabited

structure Numeral where
  negative : Bool
  whole : Bytes
  fraction : Option Bytes
  exponent : Option Exponent
  defect : Option NumeralDefect
  deriving DecidableEq, Inhabited

/-- The value of a numeral; `negative n` stands for `-n`. -/
inductive Number where
  | natural (value : Nat)
  | negative (magnitude : Nat)
  | real (value : Float)
  deriving Inhabited

namespace Numeral

def takeDigits (text : Bytes) : Bytes × Bytes :=
  (text.takeWhile Decimal.isDigit, text.dropWhile Decimal.isDigit)

def takeSign : Bytes → Option UInt8 × Bytes
  | s :: rest => if s = 43 ∨ s = 45 then (some s, rest) else (none, s :: rest)
  | [] => (none, [])

def missing (rest : Bytes) : Option NumeralDefect := some (.noDigit rest.isEmpty)

def readExponent (numeral : Numeral) (text : Bytes) : Numeral × Bytes :=
  match text with
  | letter :: rest =>
    if letter = 101 ∨ letter = 69 then
      let signed := takeSign rest
      let split := takeDigits signed.2
      (⟨numeral.negative, numeral.whole, numeral.fraction, some ⟨letter, signed.1, split.1⟩,
        if split.1.isEmpty then missing split.2 else none⟩, split.2)
    else (numeral, text)
  | [] => (numeral, text)

def readFraction (numeral : Numeral) (text : Bytes) : Numeral × Bytes :=
  match text with
  | 46 :: rest =>
    let split := takeDigits rest
    if split.1.isEmpty then
      (⟨numeral.negative, numeral.whole, some [], none, missing split.2⟩, split.2)
    else readExponent ⟨numeral.negative, numeral.whole, some split.1, none, none⟩ split.2
  | _ => readExponent numeral text

/-- Reads a numeral behind its sign: a single zero, or digits that start with none. -/
def readUnsigned (negative : Bool) (text : Bytes) : Numeral × Bytes :=
  match text with
  | 48 :: rest =>
    match rest with
    | d :: _ =>
      if Decimal.isDigit d then (⟨negative, [48], none, none, some .leadingZero⟩, rest)
      else readFraction ⟨negative, [48], none, none, none⟩ rest
    | [] => (⟨negative, [48], none, none, none⟩, rest)
  | _ =>
    let split := takeDigits text
    if split.1.isEmpty then (⟨negative, [], none, none, missing split.2⟩, split.2)
    else readFraction ⟨negative, split.1, none, none, none⟩ split.2

def ofNat (value : Nat) : Numeral := ⟨false, Decimal.ofNat value, none, none, none⟩

def text (numeral : Numeral) : Bytes :=
  (if numeral.negative then [45] else []) ++ numeral.whole ++
    (match numeral.fraction with | some digits => 46 :: digits | none => []) ++
    (match numeral.exponent with
      | some e => e.letter :: e.sign.toList ++ e.digits
      | none => [])

def skipFault? (numeral : Numeral) : Option Fault :=
  numeral.defect.map fun _ => .invalidNumber

def fault? (numeral : Numeral) : Option Fault :=
  numeral.defect.map fun
    | .noDigit true => .valueEnd
    | _ => .invalidNumber

def limit : Nat := UInt64.size

/-- Extends `significand` by digits as long as it stays below the limit; also answers how many
digits it took. -/
def accumulate (significand : Nat) : Bytes → Nat × Nat
  | [] => (significand, 0)
  | d :: rest =>
    let next := significand * 10 + Decimal.digitValue d
    if next < limit then
      let (value, taken) := accumulate next rest
      (value, taken + 1)
    else (significand, 0)

def powerOfTen (power : Nat) : Float := Float.ofScientific 1 false power

/-- Divides by `10 ^ power` in steps within the range of doubles. -/
def scaleDown (value : Float) (power : Nat) : Float :=
  if power ≤ 308 then value / powerOfTen power
  else if value == 0 then value
  else scaleDown (value / powerOfTen 308) (power - 308)
termination_by power

/-- The double nearest to the significand, scaled by a power of ten; none beyond its range. -/
def scale? (significand : Nat) (power : Int) : Option Float :=
  let value := significand.toUInt64.toFloat
  if power < 0 then some (scaleDown value power.natAbs)
  else if 308 < power then if value == 0 then some value else none
  else
    let scaled := value * powerOfTen power.natAbs
    if scaled.isInf then none else some scaled

def real? (negative : Bool) (significand : Nat) (power : Int) (exponent : Option Exponent) :
    Option Float :=
  let size := (exponent.map fun e => Decimal.toNat e.digits).getD 0
  let down := exponent.any fun e => e.sign = some 45
  let value? :=
    if size < 1 <<< 31 then scale? significand (if down then power - size else power + size)
    else if significand = 0 ∨ down then some 0 else none
  value?.map fun value => if negative then -value else value

def value? (numeral : Numeral) : Option Number :=
  let (significand, taken) := accumulate 0 numeral.whole
  let dropped := numeral.whole.length - taken
  let (longer, more) := accumulate significand (numeral.fraction.getD [])
  if dropped = 0 ∧ numeral.fraction = none ∧ numeral.exponent = none then
    if ¬ numeral.negative then some (.natural significand)
    else if 0 < significand ∧ significand ≤ 1 <<< 63 then some (.negative significand)
    else some (.real (-significand.toUInt64.toFloat))
  else .real <$> real? numeral.negative longer (dropped - more) numeral.exponent

def number (numeral : Numeral) : Except Fault Number :=
  match numeral.fault? with
  | some fault => .error fault
  | none =>
    match numeral.value? with
    | some value => .ok value
    | none => .error .numberOutOfRange

end Numeral
end EnclaveRegistry.Json
