/-!
Unsigned decimals below a limit. A numeral is an optional plus sign followed by one or more ASCII
digits, with any number of leading zeros; reading stops at the first character that is no digit or
that takes the value to the limit, so of two faults the one further left is reported.
-/

set_option autoImplicit false
set_option relaxedAutoImplicit false

namespace OverlayGateway.Decimal

/-- Why a text is no unsigned decimal below the limit. -/
inductive NumeralError where
  | empty
  | invalidDigit
  | tooLarge
  deriving DecidableEq, Repr

def NumeralError.message : NumeralError → String
  | .empty => "cannot parse integer from empty string"
  | .invalidDigit => "invalid digit found in string"
  | .tooLarge => "number too large to fit in target type"

/-- The value of an ASCII digit. -/
def digit? (c : Char) : Option Nat :=
  if '0' ≤ c ∧ c ≤ '9' then some (c.toNat - '0'.toNat) else none

/-- Reads digits after a numeral whose value so far is `value`. -/
def readDigits (limit value : Nat) : List Char → Except NumeralError Nat
  | [] => .ok value
  | c :: cs =>
    match digit? c with
    | none => .error .invalidDigit
    | some d =>
      if value * 10 + d < limit then readDigits limit (value * 10 + d) cs else .error .tooLarge

/-- Reads a whole numeral with a value below `limit`. -/
def readChars (limit : Nat) : List Char → Except NumeralError Nat
  | [] => .error .empty
  | ['+'] => .error .invalidDigit
  | '+' :: cs => readDigits limit 0 cs
  | cs => readDigits limit 0 cs

def read (limit : Nat) (s : String) : Except NumeralError Nat := readChars limit s.toList

def read? (limit : Nat) (s : String) : Option Nat := (read limit s).toOption

/-- The decimal digits of a number, without leading zeros. -/
def write (n : Nat) : String := String.ofList (Nat.toDigits 10 n)

end OverlayGateway.Decimal
