import EnclaveRegistry.Decimal.Natural

/-! # Shortest decimal text of a binary number

A binary number `m * 2 ^ q` with a 53-bit significand is written with the fewest digits that read
back as it; of several such decimals the nearest is taken. All comparisons are exact, on natural
numbers.
-/
namespace EnclaveRegistry.Decimal

def raise (base : Nat) (power : Int) : Nat := Nat.pow base power.toNat

/-- A finite positive number `significand * 2 ^ exponent` of the double format. -/
structure Binary where
  significand : Nat
  exponent : Int
  deriving DecidableEq, Inhabited

namespace Binary

def hiddenBit : Nat := 1 <<< 52

def ofFloat (x : Float) : Binary :=
  let bits := x.toBits.toNat
  let field : Nat := bits >>> 52 % 2048
  let fraction := bits % hiddenBit
  if field = 0 then ⟨fraction, -1074⟩ else ⟨hiddenBit + fraction, (field : Int) - 1075⟩

/-- Four times the number, and four times the distances to the midpoints below and above, over a
common scale: the interval of reals that round to the number. -/
def bounds (x : Binary) : Nat × Nat × Nat :=
  let centre := 4 * x.significand
  let below := if x.significand = hiddenBit ∧ x.exponent > -1074 then 1 else 2
  (centre - below, centre, centre + 2)

/-- Whether the decimal `digits * 10 ^ power` rounds to the number; the ends of its interval do
exactly when the significand is even. -/
def readsBack (x : Binary) (digits : Nat) (power : Int) : Bool :=
  let (low, _, high) := x.bounds
  let scale := fun (n : Nat) => n * raise 10 (-power) * raise 2 x.exponent
  let candidate := 4 * digits * raise 10 power * raise 2 (-x.exponent)
  if x.significand % 2 = 0 then scale low ≤ candidate && candidate ≤ scale high
  else scale low < candidate && candidate < scale high

def floorAt (x : Binary) (power : Int) : Nat :=
  x.significand * raise 2 x.exponent * raise 10 (-power) /
    (raise 2 (-x.exponent) * raise 10 power)

/-- The nearer of two neighbours on the grid of `10 ^ power` that reads back, if one does. -/
def onGrid? (x : Binary) (power : Int) : Option Nat :=
  let down := x.floorAt power
  let up := down + 1
  match x.readsBack down power && 0 < down, x.readsBack up power with
  | false, false => none
  | true, false => some down
  | false, true => some up
  | true, true =>
    let twice := x.significand * raise 2 x.exponent * raise 10 (-power) * 2
    let middle := (down + up) * (raise 2 (-x.exponent) * raise 10 power)
    if twice < middle then some down
    else if middle < twice then some up
    else if down % 2 = 0 then some down else some up

def magnitude (x : Binary) : Int :=
  let digits := (Decimal.ofNat (x.floorAt (-400))).length
  (digits : Int) - 400

/-- The first grid, from coarse to fine, on which a decimal reads back; seventeen digits always
suffice. -/
def shortest (x : Binary) : Nat × Int :=
  let top := x.magnitude
  let hit? := (List.range 17).findSome? fun (count : Nat) =>
    let power : Int := top - (count + 1)
    (x.onGrid? power).map fun digits => (digits, power)
  hit?.getD (x.floorAt (top - 17), top - 17)

end Binary

/-- How a number is laid out: positionally for the powers of ten of its leading digit from
`leastPositional` up to `greatestPositional`, with an exponent of at least two digits otherwise. -/
structure Layout where
  leastPositional : Int
  greatestPositional : Int

def Layout.write (layout : Layout) (digits : Bytes) (power : Int) : Bytes :=
  let leading : Int := power + digits.length - 1
  let point := Bytes.ascii "."
  if layout.leastPositional ≤ leading ∧ leading ≤ layout.greatestPositional then
    if 0 ≤ power then
      digits ++ List.replicate power.toNat (digit 0) ++ point ++ [digit 0]
    else if 0 ≤ leading then
      digits.take (leading.toNat + 1) ++ point ++ digits.drop (leading.toNat + 1)
    else
      digit 0 :: point ++ List.replicate ((-leading).toNat - 1) (digit 0) ++ digits
  else
    let mantissa := if digits.length ≤ 1 then digits else digits.take 1 ++ point ++ digits.drop 1
    let size := leading.natAbs
    let exponent := if size < 10 then digit 0 :: ofNat size else ofNat size
    mantissa ++ Bytes.ascii (if leading < 0 then "e-" else "e+") ++ exponent

def trimZeros (digits : Bytes) (power : Int) : Bytes × Int :=
  let kept := (digits.reverse.dropWhile (· == digit 0)).reverse
  (kept, power + (digits.length - kept.length : Nat))

def ofFloat (layout : Layout) (x : Float) : Bytes :=
  let sign := if x.toBits.toNat < 1 <<< 63 then [] else Bytes.ascii "-"
  let parts := Binary.ofFloat x
  if parts.significand = 0 then sign ++ Bytes.ascii "0.0"
  else
    let (digits, power) := parts.shortest
    let (kept, power) := trimZeros (ofNat digits) power
    sign ++ layout.write kept power

end EnclaveRegistry.Decimal
