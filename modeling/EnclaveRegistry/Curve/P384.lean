import EnclaveRegistry.Bytes
import EnclaveRegistry.Curve.Repetition

/-! # The curve P-384

The curve is `y² = x³ - 3 x + b` over the integers modulo `2^384 - 2^128 - 2^96 + 2^32 - 1`, and
all its points are multiples of one base point. A point is held in projective coordinates, where
one addition formula serves all points.
-/
namespace EnclaveRegistry.Curve.P384

def prime : Nat :=
  0xfffffffffffffffffffffffffffffffffffffffffffffffffffffffffffffffeffffffff0000000000000000ffffffff

def order : Nat :=
  0xffffffffffffffffffffffffffffffffffffffffffffffffc7634d81f4372ddf581a0db248b0a77aecec196accc52973

instance : @NeZero Nat Zero.ofOfNat0 prime := ⟨by decide⟩

abbrev Field := Fin prime

def power (x : Field) (exponent : Nat) : Field := repetition (· * ·) 1 x 384 exponent

def inverse (x : Field) : Field := power x (prime - 2)

def b : Field :=
  0xb3312fa7e23ee7e4988e056be3f82d19181d9c6efe8141120314088f5013875ac656398d8a2ed19d2a85c8edd3ec2aef

def baseX : Field :=
  0xaa87ca22be8b05378eb1c71ef320ad746e1d3b628ba79b9859f741e082542a385502f25dbf55296c3a545e3872760ab7

def baseY : Field :=
  0x3617de4a96262c6f5d9e98bf9292dc29f8f41dbd289a147ce9da3113b5f0b8c00a60b1ce1d7e819d7a431d7c90ea0e5f

/-- A point `(x / z, y / z)`; the neutral point has `z = 0`. -/
structure Point where
  x : Field
  y : Field
  z : Field
  deriving DecidableEq

namespace Point

def zero : Point := ⟨0, 1, 0⟩

def base : Point := ⟨baseX, baseY, 1⟩

def add (p q : Point) : Point :=
  let xx := p.x * q.x
  let yy := p.y * q.y
  let zz := p.z * q.z
  let xy := p.x * q.y + q.x * p.y
  let yz := p.y * q.z + q.y * p.z
  let xz := p.x * q.z + q.x * p.z
  let m := 3 * (b * zz - xz)
  let n := 3 * (b * xz - xx - 3 * zz)
  let tangent := 3 * (xx - zz)
  ⟨xy * (yy - m) - yz * n, (yy + m) * (yy - m) + tangent * n, yz * (yy + m) + xy * tangent⟩

def multiple (count : Nat) (p : Point) : Point := repetition add zero p 384 count

def affineX (p : Point) : Field := p.x * inverse p.z

end Point

def cubic (x : Field) : Field := x * x * x - 3 * x + b

def root? (x : Field) : Option Field :=
  let candidate := power x ((prime + 1) / 4)
  if candidate * candidate = x then some candidate else none

/-- The coordinate that 48 octets stand for; a number from the prime on is none. -/
def coordinate? (octets : Bytes) : Option Field :=
  let value := Bytes.toNatBE octets
  if h : value < prime then some ⟨value, h⟩ else none

/-- The point with a given first coordinate whose second one `choose` picks from a value and its
opposite. -/
def lift? (octets : Bytes) (choose : Field → Bool) : Option Point := do
  let x ← coordinate? octets
  let y ← root? (cubic x)
  return ⟨x, if choose y then y else -y, 1⟩

/-- The point of a key's octets. The first octet tells the form: both coordinates (4), the first
one with the parity of the second (2, 3), or the first one alone (5). -/
def decode? : Bytes → Option Point
  | 4 :: octets => do
    if octets.length ≠ 96 then none else
    let x ← coordinate? (octets.take 48)
    let y ← coordinate? (octets.drop 48)
    if y * y = cubic x then some ⟨x, y, 1⟩ else none
  | form :: octets =>
    if octets.length ≠ 48 then none
    else if form = 2 then lift? octets fun y => y.val % 2 = 0
    else if form = 3 then lift? octets fun y => y.val % 2 = 1
    else if form = 5 then lift? octets fun y => y ≤ -y
    else none
  | [] => none

end EnclaveRegistry.Curve.P384
