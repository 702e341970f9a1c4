import EnclaveRegistry.Curve.Edwards25519
import EnclaveRegistry.Hash.Sha2

/-! # Ed25519 signatures

A signature is an encoded point and a scalar. It is checked by computing the point that the
scalar, the key and the message demand and comparing the encodings octet by octet; the key enters
the hash as it was received.
-/
namespace EnclaveRegistry.Curve.Ed25519

open Edwards25519 (Point order)

/-- A public key as received, and the point it stands for. -/
structure PublicKey where
  octets : Bytes
  point : Point

def PublicKey.ofOctets? (octets : Bytes) : Option PublicKey :=
  (Edwards25519.decode? octets).map fun point => ⟨octets, point⟩

def hashScalar (parts : List Bytes) : Nat :=
  Bytes.toNatLE (Hash.sha512 parts.flatten) % order

/-- A scalar made from 32 octets: a multiple of eight with bit 254 set and none above it. -/
def clamp (octets : Bytes) : Nat :=
  let value := Bytes.toNatLE octets % (1 <<< 254)
  (1 <<< 254) + (value - value % 8)

/-- The secret scalar and the prefix of nonces, from a secret key. -/
def expand (secret : Bytes) : Nat × Bytes :=
  let digest := Hash.sha512 secret
  (clamp (digest.take 32), digest.drop 32)

def publicOctets (secret : Bytes) : Bytes := (Point.multiple (expand secret).1 .base).encode

def sign (secret message : Bytes) : Bytes :=
  let (scalar, pre) := expand secret
  let nonce := hashScalar [pre, message]
  let commitment := (Point.multiple nonce .base).encode
  let challenge := hashScalar [commitment, publicOctets secret, message]
  commitment ++ Bytes.ofNatLE 32 ((nonce + challenge * scalar) % order)

def verify (key : PublicKey) (message signature : Bytes) : Bool :=
  let commitment := signature.take 32
  let scalar := Bytes.toNatLE (signature.drop 32)
  let challenge := hashScalar [commitment, key.octets, message]
  let expected := (Point.multiple scalar .base).add (Point.multiple challenge key.point.neg)
  decide (scalar < order) && expected.encode == commitment

end EnclaveRegistry.Curve.Ed25519
