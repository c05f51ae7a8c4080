import OverlayGateway.Der
/-!
Keys whose modulus is the product of two primes. Such a key is stored with its primes and with
numbers that follow from them; the parts have to be of the right sizes and have to fit together.
-/

set_option autoImplicit false
set_option relaxedAutoImplicit false

namespace OverlayGateway

open Der

/-- The parts of a key as they are stored. -/
structure Rsa where
  modulus : Nat
  publicExponent : Nat
  privateExponent : Nat
  first : Nat
  second : Nat
  /-- The private exponent as it counts for each prime. -/
  firstExponent : Nat
  secondExponent : Nat
  /-- The inverse of the second prime for the first one. -/
  inverse : Nat
  deriving DecidableEq, Repr

namespace Rsa

/-- How many bits a number has. -/
def bitLength (n : Nat) : Nat := if n = 0 then 0 else Nat.log2 n + 1

def isOdd (n : Nat) : Bool := n % 2 = 1

/-- How many bits each of the two primes has. -/
def half (key : Rsa) : Nat := (bitLength key.modulus + 1) / 2

/-- The least and the greatest number of bits of a modulus; a few at the front may be zero. -/
def leastBits : Nat := 2048

def mostBits : Nat := 4096

def leastPublicExponent : Nat := 65537

def publicExponentLimit : Nat := 1 <<< 33

/-- The bits of a prime fill words of this many bits. -/
def primeUnit : Nat := 512

def isPublicSound (key : Rsa) : Bool :=
  let bits := bitLength key.modulus
  isOdd key.modulus && leastBits ≤ (bits + 7) / 8 * 8 && bits ≤ mostBits &&
    isOdd key.publicExponent && leastPublicExponent ≤ key.publicExponent &&
    key.publicExponent < publicExponentLimit

/-- Whether a prime has the right size, and its exponent is one. -/
def isPrimeSound (key : Rsa) (prime exponent : Nat) : Bool :=
  isOdd prime && bitLength prime = key.half && key.half % primeUnit = 0 &&
    isOdd exponent && exponent < prime

def isPrivateSound (key : Rsa) : Bool :=
  isOdd key.privateExponent && key.half < bitLength key.privateExponent &&
    key.privateExponent < key.modulus

/-- Whether the parts of a key fit together. -/
def isSound (key : Rsa) : Bool :=
  key.isPublicSound && key.isPrimeSound key.first key.firstExponent &&
    key.isPrimeSound key.second key.secondExponent && key.isPrivateSound &&
    key.first * key.second % key.modulus = 0 &&
    key.inverse < key.first && key.inverse * key.second % key.first = 1

def reader : Reader Rsa :=
  within sequenceTag do
    if (← number) ≠ 0 then failure
    return {
      modulus := ← number
      publicExponent := ← number
      privateExponent := ← number
      first := ← number
      second := ← number
      firstExponent := ← number
      secondExponent := ← number
      inverse := ← number }

/-- The public key for a stored key. -/
def publicKey? (bytes : List UInt8) : Option (List UInt8) := do
  let key ← reader.whole? bytes
  if !key.isSound then none
  return write sequenceTag (writeNat key.modulus ++ writeNat key.publicExponent)

end Rsa

end OverlayGateway
