import OverlayGateway.Decimal.Shortest
import OverlayGateway.Decimal.Unsigned
import OverlayGateway.Text.Basic
/-!
What scalars without quotes stand for. By its spelling such a scalar is nothing, a truth value or a
number, and otherwise a text. Digits behind a zero are a text, unless they belong to a number with a
point or a power of ten.
-/

set_option autoImplicit false
set_option relaxedAutoImplicit false

namespace OverlayGateway.Yaml

/-- An integer or a double. -/
inductive Number where
  | int (value : Int)
  | float (value : Float)

/-- Whether two numbers are the same one; all that are no numbers are. -/
def Number.isSame : Number → Number → Bool
  | .int a, .int b => a = b
  | .float a, .float b => (a.isNaN && b.isNaN) || a == b
  | _, _ => false

/-- An integer in base 10. -/
def integerText (value : Int) : String :=
  (if value < 0 then "-" else "") ++ Decimal.write value.natAbs

namespace Plain

def isNull (cs : List Char) : Bool := ["~", "null", "Null", "NULL"].contains (String.ofList cs)

def bool? (cs : List Char) : Option Bool :=
  let s := String.ofList cs
  if ["true", "True", "TRUE"].contains s then some true
  else if ["false", "False", "FALSE"].contains s then some false
  else none

/-- A text without the sign that it starts with. -/
def dropSign : List Char → List Char
  | '-' :: cs | '+' :: cs => cs
  | cs => cs

/-- Whether a text has more than one digit and the first one is a zero. -/
def hasLeadingZero (cs : List Char) : Bool :=
  match dropSign cs with
  | '0' :: d :: ds => (d :: ds).all Char.isDigit
  | _ => false

/-- The value of one or more digits of a base. -/
def ofDigits? (base : Nat) (cs : List Char) : Option Nat :=
  if cs = [] then none
  else
    cs.foldlM
      (fun value c ↦
        (Text.hexValue? c).bind fun digit ↦
          if digit < base then some (value * base + digit) else none) 0

/-- The magnitude of an integer, in base 10 without leading zeros or in a base that is named. -/
def magnitude? (cs : List Char) : Option Nat :=
  match cs with
  | '0' :: 'x' :: digits => ofDigits? 16 digits
  | '0' :: 'o' :: digits => ofDigits? 8 digits
  | '0' :: 'b' :: digits => ofDigits? 2 digits
  | digits => if hasLeadingZero digits then none else ofDigits? 10 digits

/-- How many values an unsigned integer of 128 bits has. -/
def wideSize : Nat := UInt64.size * UInt64.size

/-- The integer that a scalar spells, of at most 128 bits. -/
def integer? (cs : List Char) : Option Int :=
  match cs with
  | '-' :: rest =>
    ((magnitude? rest).filter (· ≤ wideSize / 2)).map fun value ↦ -(value : Int)
  | '+' :: rest => ((magnitude? rest).filter (· < wideSize)).map Int.ofNat
  | cs => ((magnitude? cs).filter (· < wideSize)).map Int.ofNat

/-- The power of ten at the end of a number, zero if there is nothing. -/
def exponent? : List Char → Option Int
  | [] => some 0
  | e :: cs =>
    if e = 'e' ∨ e = 'E' then
      match cs with
      | '-' :: digits => (ofDigits? 10 digits).map fun power ↦ -(power : Int)
      | '+' :: digits => (ofDigits? 10 digits).map Int.ofNat
      | digits => (ofDigits? 10 digits).map Int.ofNat
    else none

/-- The double nearest to `digits * 10 ^ power`, if it is finite. -/
def double? (digits : Nat) (power : Int) : Option Float :=
  let places : Int := ((Nat.toDigits 10 digits).length : Int) + power
  if digits = 0 ∨ places < -400 then some 0.0
  else if 400 < places then none
  else
    let value := Float.ofScientific digits (power < 0) power.natAbs
    if value.isInf then none else some value

/-- A decimal without a sign, with a digit on one side of its point. -/
def decimal? (cs : List Char) : Option Float := do
  let whole := cs.takeWhile Char.isDigit
  let rest := cs.dropWhile Char.isDigit
  let (fraction, rest) := match rest with
    | '.' :: rest => (rest.takeWhile Char.isDigit, rest.dropWhile Char.isDigit)
    | rest => ([], rest)
  let digits ← ofDigits? 10 (whole ++ fraction)
  double? digits ((← exponent? rest) - (fraction.length : Int))

/-- The words for what is no finite number, behind a sign. -/
def infinityWords : List String := [".inf", ".Inf", ".INF"]

def nanWords : List String := [".nan", ".NaN", ".NAN"]

/-- The double that a scalar spells. -/
def float? (cs : List Char) : Option Float :=
  if infinityWords.contains (String.ofList (dropSign cs)) then
    some (if cs.head? = some '-' then -(1.0 / 0.0) else 1.0 / 0.0)
  else if nanWords.contains (String.ofList cs) then some (0.0 / 0.0)
  else
    match cs with
    | '-' :: rest => (decimal? rest).map fun value ↦ -value
    | '+' :: rest => decimal? rest
    | cs => decimal? cs

end Plain

end OverlayGateway.Yaml
