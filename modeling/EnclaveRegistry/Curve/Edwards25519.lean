import EnclaveRegistry.Bytes
import EnclaveRegistry.Curve.Repetition

/-! # The curve edwards25519

The curve is `y² - x² = 1 + d x² y²` over the integers modulo `2^255 - 19`. A point is held in
extended coordinates, where one addition formula serves all points, and written as its second
coordinate with the parity of the first one in the highest bit.
-/
namespace EnclaveRegistry.Curve.Edwards25519

def prime : Nat :=
  0x7fffffffffffffffffffffffffffffffffffffffffffffffffffffffffffffed

def order : Nat :=
  0x1000000000000000000000000000000014def9dea2f79cd65812631a5cf5d3ed

instance : @NeZero Nat Zero.ofOfNat0 prime := ⟨by decide⟩

abbrev Field := Fin prime

/-- A power of a coordinate, for an exponent below `2 ^ 255`. -/
def power (x : Field) (exponent : Nat) : Field := repetition (· * ·) 1 x 255 exponent

def inverse (x : Field) : Field := power x (prime - 2)

/-- The constant of the curve's equation, `-121665 / 121666`. -/
def d : Field := 0x52036cee2b6ffe738cc740797779e89800700a4d4141d8ab75eb4dca135978a3

def rootOfMinusOne : Field := 0x2b8324804fc1df0b2b4d00993dfbd7a72f431806ad2fe478c4ee1b274a0ea0b0

/-- A point `(x / z, y / z)`, with `t = x y / z`. -/
structure Point where
  x : Field
  y : Field
  z : Field
  t : Field
  deriving DecidableEq

namespace Point

def zero : Point := ⟨0, 1, 1, 0⟩

def ofAffine (x y : Field) : Point := ⟨x, y, 1, x * y⟩

def base : Point :=
  ofAffine 0x216936d3cd6e53fec0a4e231fdd6dc5c692cc7609525a7b2c9562d608f25d51a
    0x6666666666666666666666666666666666666666666666666666666666666658

def add (p q : Point) : Point :=
  let a := (p.y - p.x) * (q.y - q.x)
  let b := (p.y + p.x) * (q.y + q.x)
  let c := p.t * (2 * d) * q.t
  let e := p.z * 2 * q.z
  let f := b - a
  let g := e - c
  let h := e + c
  let i := b + a
  ⟨f * g, h * i, g * h, f * i⟩

def neg (p : Point) : Point := ⟨-p.x, p.y, p.z, -p.t⟩

def multiple (count : Nat) (p : Point) : Point := repetition add zero p 256 count

def encode (p : Point) : Bytes :=
  let scale := inverse p.z
  let x := p.x * scale
  let y := p.y * scale
  Bytes.ofNatLE 32 (y.val + (x.val % 2) <<< 255)

end Point

/-- The even square root of `u / v`, if there is one. -/
def quotientRoot? (u v : Field) : Option Field :=
  let candidate := u * power v 3 * power (u * power v 7) ((prime - 5) / 8)
  let square := v * candidate * candidate
  let even (x : Field) := if x.val % 2 = 1 then -x else x
  if square = u then some (even candidate)
  else if square = -u then some (even (candidate * rootOfMinusOne))
  else none

/-- The point that 32 octets stand for. The second coordinate is taken modulo the prime, and a
first coordinate of zero may carry either sign. -/
def decode? (octets : Bytes) : Option Point :=
  let value := Bytes.toNatLE octets
  let y := Fin.ofNat prime (value % (1 <<< 255))
  (quotientRoot? (y * y - 1) (d * y * y + 1)).map fun x =>
    Point.ofAffine (if value >>> 255 % 2 = 1 then -x else x) y

end EnclaveRegistry.Curve.Edwards25519
