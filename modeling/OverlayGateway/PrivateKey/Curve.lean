import OverlayGateway.Der
import OverlayGateway.PrivateKey.Digest
/-!
Elliptic curves over the remainders of a prime, for which powers and multiples are taken by
doubling; with a prime modulus the inverse of a remainder is a power of it. On the curves
`y ^ 2 = x ^ 3 - 3 * x + b` a private key is a number, and its public key that multiple of the base
point. On the curve `y ^ 2 = 1 + x ^ 2 + d * x ^ 2 * y ^ 2` it is a seed, and the digest of the seed
gives the factor by which the base point is multiplied.
-/

set_option autoImplicit false
set_option relaxedAutoImplicit false

namespace OverlayGateway

/-! ### Remainders -/

namespace Residue

/-- The remainder of a power. -/
def power (modulus base exponent : Nat) : Nat :=
  if exponent = 0 then 1 % modulus
  else
    let root := power modulus (base * base % modulus) (exponent / 2)
    if exponent % 2 = 1 then root * base % modulus else root

/-- The inverse of a remainder that is not zero, for a prime modulus. -/
def inverse (prime a : Nat) : Nat := power prime a (prime - 2)

/-- A difference of remainders. -/
def minus (modulus a b : Nat) : Nat := (a + (modulus - b % modulus)) % modulus

/-- A sum with as many terms as a number says, by doubling. -/
def multiple {α : Type} (add : α → α → α) (zero : α) (count : Nat) (a : α) : α :=
  if count = 0 then zero
  else
    let rest := multiple add zero (count / 2) (add a a)
    if count % 2 = 1 then add rest a else rest

end Residue

/-! ### A curve of 255 bits -/

namespace Edwards

def prime : Nat := (1 <<< 255) - 19

/-- The constant `d` of the curve. -/
def coefficient : Nat :=
  37095705934669439343138083508754565189542113879843219016388785533085940283555

/-- The base point by its coordinates. -/
def base : Nat × Nat :=
  (15112221349535400772501151409588531511454012693041857206046113283949847762202,
    46316835694926478169428394003475163141307993866256225615783033603165251855960)

def add (a b : Nat × Nat) : Nat × Nat :=
  let (x, y) := a
  let (x', y') := b
  let product := coefficient * (x * x' % prime) * (y * y' % prime) % prime
  ((x * y' + x' * y) * Residue.inverse prime ((1 + product) % prime) % prime,
    (y * y' + x * x') * Residue.inverse prime (Residue.minus prime 1 product) % prime)

/-- How many bytes a seed and a public key have. -/
def size : Nat := 32

/-- The factor for a seed: a multiple of eight with 255 bits. -/
def factor (seed : List UInt8) : Nat :=
  let number := Der.ofBytes ((Digest.ofBytes seed).take size).reverse
  (1 <<< 254) + (number % (1 <<< 254) - number % 8)

/-- The public key for a seed: one coordinate and the last bit of the other, the last byte first. -/
def publicKey? (seed : List UInt8) : Option (List UInt8) :=
  if seed.length ≠ size then none
  else
    let (x, y) := Residue.multiple add (0, 1) (factor seed) base
    some (Der.wide size ((x % 2) <<< 255 + y)).reverse

end Edwards

/-! ### Curves of 256 and 384 bits -/

/-- A curve with a base point. -/
structure Weierstrass where
  prime : Nat
  baseX : Nat
  baseY : Nat
  /-- How many multiples the base point has. -/
  order : Nat
  /-- How many bytes a coordinate has. -/
  size : Nat
  /-- What identifies the curve. -/
  identifier : List UInt8

namespace Weierstrass

/-- The curve for 256 bits. -/
def p256 : Weierstrass where
  prime := 0xffffffff00000001000000000000000000000000ffffffffffffffffffffffff
  baseX := 0x6b17d1f2e12c4247f8bce6e563a440f277037d812deb33a0f4a13945d898c296
  baseY := 0x4fe342e2fe1a7f9b8ee7eb4a7c0f9e162bce33576b315ececbb6406837bf51f5
  order := 0xffffffff00000000ffffffffffffffffbce6faada7179e84f3b9cac2fc632551
  size := 32
  identifier := [0x2A, 0x86, 0x48, 0xCE, 0x3D, 0x03, 0x01, 0x07]

/-- The curve for 384 bits. -/
def p384 : Weierstrass where
  prime :=
    0xfffffffffffffffffffffffffffffffffffffffffffffffffffffffffffffffeffffffff0000000000000000ffffffff
  baseX :=
    0xaa87ca22be8b05378eb1c71ef320ad746e1d3b628ba79b9859f741e082542a385502f25dbf55296c3a545e3872760ab7
  baseY :=
    0x3617de4a96262c6f5d9e98bf9292dc29f8f41dbd289a147ce9da3113b5f0b8c00a60b1ce1d7e819d7a431d7c90ea0e5f
  order :=
    0xffffffffffffffffffffffffffffffffffffffffffffffffc7634d81f4372ddf581a0db248b0a77aecec196accc52973
  size := 48
  identifier := [0x2B, 0x81, 0x04, 0x00, 0x22]

/-- A point by its coordinates; nothing is the point at infinity. -/
abbrev Point := Option (Nat × Nat)

/-- The third point on a line of a slope through two points, mirrored. -/
def mirrored (curve : Weierstrass) (slope x y otherX : Nat) : Point :=
  let minus := Residue.minus curve.prime
  let thirdX := minus (minus (slope * slope) x) otherX
  some (thirdX, minus (slope * minus x thirdX) y)

def add (curve : Weierstrass) : Point → Point → Point
  | none, point | point, none => point
  | some (x, y), some (x', y') =>
    let p := curve.prime
    if x = x' then
      if (y + y') % p = 0 then none
      else
        mirrored curve (Residue.minus p (3 * x * x) 3 * Residue.inverse p (2 * y % p) % p) x y x
    else
      mirrored curve (Residue.minus p y y' * Residue.inverse p (Residue.minus p x x') % p) x y x'

/-- The public key for a private key, with both coordinates written out. -/
def publicKey? (curve : Weierstrass) (secret : List UInt8) : Option (List UInt8) := do
  let factor := Der.ofBytes secret
  if secret.length ≠ curve.size ∨ factor = 0 ∨ curve.order ≤ factor then none
  let (x, y) ← Residue.multiple curve.add none factor (some (curve.baseX, curve.baseY))
  return 0x04 :: (Der.wide curve.size x ++ Der.wide curve.size y)

end Weierstrass

end OverlayGateway
