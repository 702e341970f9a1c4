import EnclaveRegistry.Bytes
import EnclaveRegistry.Text.Hex

/-! # Request targets

A target is a path, a query behind a question mark and a fragment behind a number sign. Octets that
do not fit a path or query are written as a percent sign and two digits; a percent sign that is not
followed by two digits stands for itself.
-/
namespace EnclaveRegistry.Http

def split (separator : UInt8) : Bytes → List Bytes
  | [] => [[]]
  | b :: rest =>
    if b = separator then [] :: split separator rest
    else
      match split separator rest with
      | [] => [[b]]
      | part :: parts => (b :: part) :: parts

def splitFirst (separator : UInt8) (bytes : Bytes) : Bytes × Bytes :=
  (bytes.takeWhile (· != separator), (bytes.dropWhile (· != separator)).drop 1)

def path (target : Bytes) : Bytes := (splitFirst 63 (splitFirst 35 target).1).1

def query (target : Bytes) : Bytes := (splitFirst 63 (splitFirst 35 target).1).2

/-- The octets that a written form with percent signs stands for. -/
def unescape : Bytes → Bytes
  | 37 :: high :: low :: rest =>
    match Hex.digitValue? high, Hex.digitValue? low with
    | some h, some l => UInt8.ofNat (16 * h + l) :: unescape rest
    | _, _ => 37 :: unescape (high :: low :: rest)
  | b :: rest => b :: unescape rest
  | [] => []

/-- The octets that a part of a query stands for; a plus sign is a blank. -/
def unescapeQuery (part : Bytes) : Bytes :=
  unescape (part.map fun b => if b = 43 then 32 else b)

def parameters (query : Bytes) : List (Bytes × Bytes) :=
  ((split 38 query).filter fun part => !part.isEmpty).map fun part =>
    let (name, value) := splitFirst 61 part
    (unescapeQuery name, unescapeQuery value)

end EnclaveRegistry.Http
