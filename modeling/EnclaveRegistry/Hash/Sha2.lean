import EnclaveRegistry.Bytes

/-! # SHA-2

The hash family over words of `w` bits. A message is padded to whole blocks of sixteen words; each
block is expanded to one word for each round constant, and the rounds stir these into the eight
words of the state. The variants differ in word size, constants and shift amounts only.
-/
namespace EnclaveRegistry.Hash

structure State (w : Nat) where
  a : BitVec w
  b : BitVec w
  c : BitVec w
  d : BitVec w
  e : BitVec w
  f : BitVec w
  g : BitVec w
  h : BitVec w
  deriving DecidableEq

structure Shifts where
  first : Nat
  second : Nat
  third : Nat

/-- What tells the members of the family apart. A word has `octets` octets; a digest keeps the
first `digest` octets of the final state. -/
structure Variant (w : Nat) where
  octets : Nat
  digest : Nat
  initial : State w
  constants : List (BitVec w)
  upperA : Shifts
  upperE : Shifts
  lowerOld : Shifts
  lowerNew : Shifts

namespace State

variable {w : Nat}

def add (s t : State w) : State w :=
  ⟨s.a + t.a, s.b + t.b, s.c + t.c, s.d + t.d, s.e + t.e, s.f + t.f, s.g + t.g, s.h + t.h⟩

def toList (s : State w) : List (BitVec w) := [s.a, s.b, s.c, s.d, s.e, s.f, s.g, s.h]

end State

def rotations {w : Nat} (s : Shifts) (x : BitVec w) : BitVec w :=
  x.rotateRight s.first ^^^ x.rotateRight s.second ^^^ x.rotateRight s.third

def rotationsAndShift {w : Nat} (s : Shifts) (x : BitVec w) : BitVec w :=
  x.rotateRight s.first ^^^ x.rotateRight s.second ^^^ x >>> s.third

namespace Variant

variable {w : Nat} (v : Variant w)

def round (s : State w) (constant word : BitVec w) : State w :=
  let choice := (s.e &&& s.f) ^^^ (~~~s.e &&& s.g)
  let majority := (s.a &&& s.b) ^^^ (s.a &&& s.c) ^^^ (s.b &&& s.c)
  let first := s.h + rotations v.upperE s.e + choice + constant + word
  let second := rotations v.upperA s.a + majority
  ⟨first + second, s.a, s.b, s.c, s.d + first, s.e, s.f, s.g⟩

def nextWord (window : List (BitVec w)) : BitVec w :=
  rotationsAndShift v.lowerNew (window.getD 14 0) + window.getD 9 0 +
    rotationsAndShift v.lowerOld (window.getD 1 0) + window.getD 0 0

/-- Runs one round for each constant; the window holds the next sixteen words of the schedule. -/
def rounds : List (BitVec w) → (window : List (BitVec w)) → State w → State w
  | [], _, s => s
  | constant :: rest, window, s =>
    rounds rest (window.drop 1 ++ [v.nextWord window]) (v.round s constant (window.getD 0 0))

def compress (s : State w) (block : List (BitVec w)) : State w :=
  s.add (v.rounds v.constants block s)

def blockOctets : Nat := 16 * v.octets

/-- The message followed by a set bit, zeros and its length in bits, up to a whole block. -/
def padded (message : Bytes) : Bytes :=
  let taken := message.length + 1 + 2 * v.octets
  let zeros := (v.blockOctets - taken % v.blockOctets) % v.blockOctets
  message ++ 0x80 :: List.replicate zeros 0 ++ Bytes.ofNatBE (2 * v.octets) (8 * message.length)

def words : (count : Nat) → Bytes → List (BitVec w)
  | 0, _ => []
  | count + 1, bytes =>
    BitVec.ofNat w (Bytes.toNatBE (bytes.take v.octets)) :: words count (bytes.drop v.octets)

def absorb : (count : Nat) → Bytes → State w → State w
  | 0, _, s => s
  | count + 1, bytes, s =>
    absorb count (bytes.drop v.blockOctets) (v.compress s (v.words 16 bytes))

def hash (message : Bytes) : Bytes :=
  let octets := v.padded message
  let final := v.absorb (octets.length / v.blockOctets) octets v.initial
  (final.toList.flatMap fun word => Bytes.ofNatBE v.octets word.toNat).take v.digest

end Variant

/-- The fractional parts of the cube roots of the first eighty primes. -/
def cubeRoots : List (BitVec 64) :=
  [
    0x428a2f98d728ae22, 0x7137449123ef65cd, 0xb5c0fbcfec4d3b2f, 0xe9b5dba58189dbbc,
    0x3956c25bf348b538, 0x59f111f1b605d019, 0x923f82a4af194f9b, 0xab1c5ed5da6d8118,
    0xd807aa98a3030242, 0x12835b0145706fbe, 0x243185be4ee4b28c, 0x550c7dc3d5ffb4e2,
    0x72be5d74f27b896f, 0x80deb1fe3b1696b1, 0x9bdc06a725c71235, 0xc19bf174cf692694,
    0xe49b69c19ef14ad2, 0xefbe4786384f25e3, 0x0fc19dc68b8cd5b5, 0x240ca1cc77ac9c65,
    0x2de92c6f592b0275, 0x4a7484aa6ea6e483, 0x5cb0a9dcbd41fbd4, 0x76f988da831153b5,
    0x983e5152ee66dfab, 0xa831c66d2db43210, 0xb00327c898fb213f, 0xbf597fc7beef0ee4,
    0xc6e00bf33da88fc2, 0xd5a79147930aa725, 0x06ca6351e003826f, 0x142929670a0e6e70,
    0x27b70a8546d22ffc, 0x2e1b21385c26c926, 0x4d2c6dfc5ac42aed, 0x53380d139d95b3df,
    0x650a73548baf63de, 0x766a0abb3c77b2a8, 0x81c2c92e47edaee6, 0x92722c851482353b,
    0xa2bfe8a14cf10364, 0xa81a664bbc423001, 0xc24b8b70d0f89791, 0xc76c51a30654be30,
    0xd192e819d6ef5218, 0xd69906245565a910, 0xf40e35855771202a, 0x106aa07032bbd1b8,
    0x19a4c116b8d2d0c8, 0x1e376c085141ab53, 0x2748774cdf8eeb99, 0x34b0bcb5e19b48a8,
    0x391c0cb3c5c95a63, 0x4ed8aa4ae3418acb, 0x5b9cca4f7763e373, 0x682e6ff3d6b2b8a3,
    0x748f82ee5defb2fc, 0x78a5636f43172f60, 0x84c87814a1f0ab72, 0x8cc702081a6439ec,
    0x90befffa23631e28, 0xa4506cebde82bde9, 0xbef9a3f7b2c67915, 0xc67178f2e372532b,
    0xca273eceea26619c, 0xd186b8c721c0c207, 0xeada7dd6cde0eb1e, 0xf57d4f7fee6ed178,
    0x06f067aa72176fba, 0x0a637dc5a2c898a6, 0x113f9804bef90dae, 0x1b710b35131c471b,
    0x28db77f523047d84, 0x32caab7b40c72493, 0x3c9ebe0a15c9bebc, 0x431d67c49c100d4c,
    0x4cc5d4becb3e42b6, 0x597f299cfc657e2a, 0x5fcb6fab3ad6faec, 0x6c44198c4a475817]

def variant256 : Variant 32 where
  octets := 4
  digest := 32
  initial := ⟨0x6a09e667, 0xbb67ae85, 0x3c6ef372, 0xa54ff53a, 0x510e527f,
    0x9b05688c, 0x1f83d9ab, 0x5be0cd19⟩
  constants := (cubeRoots.take 64).map fun x => x.extractLsb' 32 32
  upperA := ⟨2, 13, 22⟩
  upperE := ⟨6, 11, 25⟩
  lowerOld := ⟨7, 18, 3⟩
  lowerNew := ⟨17, 19, 10⟩

def variant512 : Variant 64 where
  octets := 8
  digest := 64
  initial := ⟨0x6a09e667f3bcc908, 0xbb67ae8584caa73b, 0x3c6ef372fe94f82b,
    0xa54ff53a5f1d36f1, 0x510e527fade682d1, 0x9b05688c2b3e6c1f,
    0x1f83d9abfb41bd6b, 0x5be0cd19137e2179⟩
  constants := cubeRoots
  upperA := ⟨28, 34, 39⟩
  upperE := ⟨14, 18, 41⟩
  lowerOld := ⟨1, 8, 7⟩
  lowerNew := ⟨19, 61, 6⟩

def variant384 : Variant 64 :=
  { variant512 with
    digest := 48
    initial := ⟨0xcbbb9d5dc1059ed8, 0x629a292a367cd507, 0x9159015a3070dd17,
      0x152fecd8f70e5939, 0x67332667ffc00b31, 0x8eb44a8768581511,
      0xdb0c2e0d64f98fa7, 0x47b5481dbefa4fa4⟩ }

def sha256 (message : Bytes) : Bytes := variant256.hash message

def sha384 (message : Bytes) : Bytes := variant384.hash message

def sha512 (message : Bytes) : Bytes := variant512.hash message

end EnclaveRegistry.Hash
