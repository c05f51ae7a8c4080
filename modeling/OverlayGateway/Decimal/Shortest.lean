/-!
The shortest decimal that reads back as a given double. A double stands for the reals that round to
it, the ends of that interval included when its significand is even; of the coarsest decimal grid
with a point in the interval, the point nearest to the double is taken.
-/

set_option autoImplicit false
set_option relaxedAutoImplicit false

namespace OverlayGateway.Decimal

/-- A positive double `significand * 2 ^ (exponent - 1074)`. -/
structure Binary where
  significand : Nat
  exponent : Nat

/-- The least significand of a double that is not subnormal. -/
def leastNormal : Nat := 1 <<< 52

/-- How many of the least positive double, `2 ^ (-1074)`, make one. -/
def unitsInOne : Nat := 1 <<< 1074

/-- The parts of the double with some bits, its sign left out. -/
def Binary.ofBits (bits : UInt64) : Binary :=
  let fraction := bits.toNat % leastNormal
  let biased := bits.toNat / leastNormal % (1 <<< 11)
  if biased = 0 then ⟨fraction, 0⟩ else ⟨fraction + leastNormal, biased - 1⟩

/-- A double counted in the least positive one. -/
def Binary.units (binary : Binary) : Nat := binary.significand <<< binary.exponent

/-- The decimal `digits * 10 ^ place`. -/
structure Scaled where
  digits : Nat
  place : Int
  deriving Repr

/-- Whether `digits * 10 ^ place` lies between the ends `low` and `high`, which count fourths of the
unit `2 ^ (exponent - 1074)`. -/
def isWithin (binary : Binary) (low high : Nat) (candidate : Scaled) : Bool :=
  let value := 4 * candidate.digits * unitsInOne * Nat.pow 10 candidate.place.toNat
  let divisor := Nat.pow 10 (-candidate.place).toNat
  let low := (low <<< binary.exponent) * divisor
  let high := (high <<< binary.exponent) * divisor
  if binary.significand % 2 = 0 then low ≤ value && value ≤ high else low < value && value < high

/-- The grid point at or below a double, and whether the next one is nearer. -/
def below (binary : Binary) (place : Int) : Nat × Bool :=
  let numerator := binary.units * Nat.pow 10 (-place).toNat
  let denominator := unitsInOne * Nat.pow 10 place.toNat
  (numerator / denominator, denominator < 2 * (numerator % denominator))

/-- Tries one grid after the other, each ten times finer than the one before. -/
def refine (binary : Binary) (low high : Nat) : Nat → Int → Scaled
  | 0, place => ⟨(below binary place).1, place⟩
  | fuel + 1, place =>
    let (floor, up) := below binary place
    let first := if up then floor + 1 else floor
    let second := if up then floor else floor + 1
    if isWithin binary low high ⟨first, place⟩ then ⟨first, place⟩
    else if isWithin binary low high ⟨second, place⟩ then ⟨second, place⟩
    else refine binary low high fuel (place - 1)

/-- The shortest decimal of a positive double. -/
def shortest (binary : Binary) : Scaled :=
  let middle := 4 * binary.significand
  let isAtBinade := binary.significand = leastNormal ∧ 0 < binary.exponent
  let start : Int :=
    if unitsInOne ≤ binary.units then (Nat.toDigits 10 (binary.units / unitsInOne)).length
    else
      -- a double below one has as many leading zeros as its reciprocal has digits
      1 - ((Nat.toDigits 10 (unitsInOne / binary.units)).length : Int)
  refine binary (if isAtBinade then middle - 1 else middle - 2) (middle + 2) 400 start

/-- A decimal in positional notation with at least one digit after the point. -/
def Scaled.positional (scaled : Scaled) : List Char :=
  let digits := Nat.toDigits 10 scaled.digits
  if 0 ≤ scaled.place then digits ++ List.replicate scaled.place.toNat '0' ++ ['.', '0']
  else
    let after := (-scaled.place).toNat
    let padded := List.replicate (after + 1 - digits.length) '0' ++ digits
    padded.take (padded.length - after) ++ '.' :: padded.drop (padded.length - after)

/-- One digit before the point and a power of ten. -/
def Scaled.exponential (scaled : Scaled) : List Char :=
  let digits := Nat.toDigits 10 scaled.digits
  let power : Int := scaled.place + (digits.length : Int) - 1
  let sign := if power < 0 then ['-'] else []
  let fraction := if digits.length = 1 then [] else '.' :: digits.drop 1
  digits.take 1 ++ fraction ++ 'e' :: sign ++ Nat.toDigits 10 power.natAbs

/-- Decimals between 10^-5 and 10^16 are written positionally, others with a power of ten. -/
def Scaled.text (scaled : Scaled) : List Char :=
  let point : Int := scaled.place + ((Nat.toDigits 10 scaled.digits).length : Int)
  if -5 < point ∧ point ≤ 16 then scaled.positional else scaled.exponential

/-- The text of a finite double in some notation of its shortest decimal. -/
def textIn (style : Scaled → List Char) (value : Float) : String :=
  let bits := value.toBits
  let binary := Binary.ofBits bits
  let sign := if UInt64.size / 2 ≤ bits.toNat then ['-'] else []
  String.ofList
    (sign ++ if binary.significand = 0 then ['0', '.', '0'] else style (shortest binary))

/-- The shortest text of a finite double. -/
def shortestText (value : Float) : String := textIn Scaled.text value

/-- The text of a double without a power of ten. -/
def positionalText (value : Float) : String :=
  if value.isNaN then "NaN"
  else if value.isInf then (if value < 0 then "-inf" else "inf")
  else textIn Scaled.positional value

end OverlayGateway.Decimal
