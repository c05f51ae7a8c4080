import OverlayGateway.Der
/-!
Digests of 512 bits. The bytes, padded to whole blocks, are mixed block by block into eight words;
the words to begin with and the constants of the rounds come from roots of the first primes.
-/

set_option autoImplicit false
set_option relaxedAutoImplicit false

namespace OverlayGateway.Digest

/-- The first primes, found among the numbers from `candidate` on; `fuel` bounds the search. -/
def primesFrom (known : List Nat) (candidate : Nat) : Nat → List Nat
  | 0 => known
  | fuel + 1 =>
    let isPrime := known.all fun prime ↦ candidate % prime ≠ 0
    primesFrom (if isPrime then known ++ [candidate] else known) (candidate + 1) fuel

/-- The eighty primes below 410. -/
def primes : List Nat := primesFrom [] 2 408

/-- The greatest number with `bits` bits that has the property, which smaller numbers keep. -/
def greatest (hasProperty : Nat → Bool) : Nat → Nat → Nat
  | 0, found => found
  | bits + 1, found =>
    let next := found + (1 <<< bits)
    greatest hasProperty bits (if hasProperty next then next else found)

/-- The first 64 bits behind the point of a square root. -/
def squareRootBits (n : Nat) : UInt64 :=
  UInt64.ofNat (greatest (fun root ↦ root * root ≤ n <<< 128) 80 0)

/-- The first 64 bits behind the point of a cube root. -/
def cubeRootBits (n : Nat) : UInt64 :=
  UInt64.ofNat (greatest (fun root ↦ root * root * root ≤ n <<< 192) 80 0)

def initial : List UInt64 := (primes.take 8).map squareRootBits

def roundConstants : List UInt64 := primes.map cubeRootBits

def rotated (word : UInt64) (bits : UInt64) : UInt64 := (word >>> bits) ||| (word <<< (64 - bits))

/-- The word behind the last sixteen words of a schedule, the latest first. -/
def nextWord (words : List UInt64) : UInt64 :=
  let word (ago : Nat) := words.getD (ago - 1) 0
  let early := rotated (word 15) 1 ^^^ rotated (word 15) 8 ^^^ (word 15 >>> 7)
  let late := rotated (word 2) 19 ^^^ rotated (word 2) 61 ^^^ (word 2 >>> 6)
  late + word 7 + early + word 16

/-- A schedule with words appended, the latest first. -/
def extended : Nat → List UInt64 → List UInt64
  | 0, words => words
  | count + 1, words => extended count (nextWord words :: words)

/-- One round with the sum of a word and a constant. -/
def round (state : List UInt64) (input : UInt64) : List UInt64 :=
  match state with
  | [a, b, c, d, e, f, g, h] =>
    let choice := (e &&& f) ^^^ (~~~e &&& g)
    let majority := (a &&& b) ^^^ (a &&& c) ^^^ (b &&& c)
    let first := h + (rotated e 14 ^^^ rotated e 18 ^^^ rotated e 41) + choice + input
    let second := (rotated a 28 ^^^ rotated a 34 ^^^ rotated a 39) + majority
    [first + second, a, b, c, d + first, e, f, g]
  | state => state

/-- Mixes a block of sixteen words into a state. -/
def mixed (state block : List UInt64) : List UInt64 :=
  let schedule := (extended 64 block.reverse).reverse
  let inputs := List.zipWith (· + ·) schedule roundConstants
  List.zipWith (· + ·) state (inputs.foldl round state)

/-- The pieces of a size; `fuel` bounds their number. -/
def chunks {α : Type} (size : Nat) : Nat → List α → List (List α)
  | 0, _ => []
  | fuel + 1, values =>
    if values = [] then [] else values.take size :: chunks size fuel (values.drop size)

/-- The bytes of a block or more: a one behind the last bit, zeros, and the number of bits. -/
def padded (bytes : List UInt8) : List UInt8 :=
  let zeros := (239 - bytes.length % 128) % 128
  bytes ++ 0x80 :: List.replicate zeros 0 ++ Der.wide 16 (8 * bytes.length)

/-- The digest of some bytes. -/
def ofBytes (bytes : List UInt8) : List UInt8 :=
  let words := (chunks 8 (padded bytes).length (padded bytes)).map fun piece ↦
    UInt64.ofNat (Der.ofBytes piece)
  let state := (chunks 16 words.length words).foldl mixed initial
  state.flatMap fun word ↦ Der.wide 8 word.toNat

end OverlayGateway.Digest
