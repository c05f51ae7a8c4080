import OverlayGateway.Decimal.Shortest
import OverlayGateway.Decimal.Unsigned
/-!
JSON numerals. A numeral is kept as its digits until its value is asked for: an integer of 64 bits
is exact, anything else is a double, and a numeral beyond the largest double has no value.
-/

set_option autoImplicit false
set_option relaxedAutoImplicit false

namespace OverlayGateway.Json

/-- The digits of a numeral: those of the whole part, which has no leading zeros, those after the
point, and the power of ten. -/
structure Numeral where
  negative : Bool
  whole : List Nat
  fraction : List Nat := []
  exponent : Option Int := none
  deriving DecidableEq, Repr

inductive Number where
  | int (value : Int)
  | float (value : Float)

def Number.text : Number → String
  | .int value =>
    if value < 0 then "-" ++ Decimal.write value.natAbs else Decimal.write value.natAbs
  | .float value => Decimal.shortestText value

/-- The first digits whose value is below 2^64, and those behind them. -/
def significantDigits (value : Nat) : List Nat → Nat × List Nat
  | [] => (value, [])
  | d :: ds =>
    if value * 10 + d < UInt64.size then significantDigits (value * 10 + d) ds else (value, d :: ds)

/-- A double times a power of ten, in steps that a double can hold; nothing if it is too large. -/
def scaled? (value : Float) (power : Int) : Option Float :=
  if 308 < power then if value == 0.0 then some value else none
  else if 0 ≤ power then
    let product := value * Float.ofScientific 1 false power.toNat
    if product.isInf then none else some product
  else if -308 ≤ power then some (value / Float.ofScientific 1 false (-power).toNat)
  else if -616 ≤ power then
    some (value / Float.ofScientific 1 false 308 / Float.ofScientific 1 false (-power - 308).toNat)
  else some 0.0

/-- The double of a numeral that is no 64-bit integer. Its first digits that make a 64-bit number
count, and the digits that are left out of the whole part count as zeros. -/
def Numeral.double? (numeral : Numeral) : Option Float :=
  let (value, dropped) := significantDigits 0 numeral.whole
  let (value, unread) := significantDigits value numeral.fraction
  let read : Int := (numeral.fraction.length : Int) - (unread.length : Int)
  let magnitude :=
    scaled? (Float.ofNat value) ((dropped.length : Int) - read + numeral.exponent.getD 0)
  magnitude.map fun magnitude ↦ if numeral.negative then -magnitude else magnitude

/-- The value of a numeral. -/
def Numeral.value? (numeral : Numeral) : Option Number :=
  let (value, rest) := significantDigits 0 numeral.whole
  if numeral.fraction = [] ∧ numeral.exponent = none ∧ rest = [] then
    if !numeral.negative then some (.int value)
    else if 0 < value ∧ value ≤ UInt64.size / 2 then some (.int (-value))
    else numeral.double?.map .float
  else numeral.double?.map .float

/-- The value of an ASCII digit. -/
def digitOfByte? (b : UInt8) : Option Nat :=
  if 0x30 ≤ b ∧ b ≤ 0x39 then some (b.toNat - 0x30) else none

def isDigitByte (b : UInt8) : Bool := (digitOfByte? b).isSome

/-- The digits at the start of some bytes, and what follows. -/
def spanDigits (bytes : List UInt8) : List Nat × List UInt8 :=
  ((bytes.takeWhile isDigitByte).filterMap digitOfByte?, bytes.dropWhile isDigitByte)

/-- The digits after a decimal point, at least one. -/
def readFraction? : List UInt8 → Option (List Nat × List UInt8)
  | 0x2E :: rest =>
    match spanDigits rest with
    | ([], _) => none
    | (digits, rest) => some (digits, rest)
  | rest => some ([], rest)

/-- Digits as a number. -/
def ofDigits (digits : List Nat) : Nat := digits.foldl (fun n d ↦ n * 10 + d) 0

/-- The power of ten, at least one digit if there is one at all. -/
def readExponent? : List UInt8 → Option (Option Int × List UInt8)
  | e :: rest =>
    if e = 0x65 ∨ e = 0x45 then
      let (negative, rest) :=
        match rest with
        | 0x2B :: rest => (false, rest)
        | 0x2D :: rest => (true, rest)
        | rest => (false, rest)
      match spanDigits rest with
      | ([], _) => none
      | (digits, rest) =>
        let power : Int := ofDigits digits
        some (some (if negative then -power else power), rest)
    else some (none, e :: rest)
  | [] => some (none, [])

/-- A numeral at the start of some bytes, and what follows it. -/
def readNumeral? (bytes : List UInt8) : Option (Numeral × List UInt8) :=
  let (negative, rest) :=
    match bytes with
    | 0x2D :: rest => (true, rest)
    | rest => (false, rest)
  match spanDigits rest with
  | ([], _) => none
  | (whole, rest) =>
    if whole.head? = some 0 ∧ 1 < whole.length then none
    else do
      let (fraction, rest) ← readFraction? rest
      let (exponent, rest) ← readExponent? rest
      return ({ negative, whole, fraction, exponent }, rest)

end OverlayGateway.Json
