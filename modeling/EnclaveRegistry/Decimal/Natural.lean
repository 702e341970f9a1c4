import EnclaveRegistry.Bytes

/-! # Decimal digits of natural numbers

A number is written without leading zeros, most significant digit first, as ASCII octets.
-/
namespace EnclaveRegistry.Decimal

def digit (value : Nat) : UInt8 := UInt8.ofNat (48 + value)

def isDigit (octet : UInt8) : Bool := 48 ≤ octet.toNat && octet.toNat ≤ 57

def digitValue (octet : UInt8) : Nat := octet.toNat - 48

def ofNat (value : Nat) : Bytes :=
  if h : value < 10 then [digit value]
  else
    have : value / 10 < value := Nat.div_lt_self (by omega) (by decide)
    ofNat (value / 10) ++ [digit (value % 10)]

def toNat (digits : Bytes) : Nat := digits.foldl (fun value d => value * 10 + digitValue d) 0

def text (value : Nat) : String := String.ofList ((ofNat value).map fun d => Char.ofNat d.toNat)

end EnclaveRegistry.Decimal
