/-!
Punycode: a text written with ASCII letters, digits and dashes alone. The ASCII characters come
first, and a dash behind them; each other character follows, lowest code point first, as one number
that tells how far on it stands in the sequence of all insertions that could come next. Numbers are
written with digits whose bases depend on their place and on a bias, which follows the numbers so
far.
-/

set_option autoImplicit false
set_option relaxedAutoImplicit false

namespace OverlayGateway.Url.Punycode

def isAscii (c : Char) : Bool := c.toNat < 0x80

/-- The letters stand for 0 to 25, the digits for the ten numbers behind them. -/
def digit (n : Nat) : Char := if n < 26 then Char.ofNat (0x61 + n) else Char.ofNat (0x30 + (n - 26))

def value? (c : Char) : Option Nat :=
  if 'a' ≤ c ∧ c ≤ 'z' then some (c.toNat - 0x61)
  else if '0' ≤ c ∧ c ≤ '9' then some (c.toNat - 0x30 + 26)
  else none

/-- The digits below this end a number. -/
def threshold (bias place : Nat) : Nat := max 1 (min 26 (place - bias))

theorem threshold_pos (bias place : Nat) : 0 < threshold bias place := by
  simp only [threshold]
  omega

/-- The digits of a number from a place on, the lowest one first. -/
def digitsFrom (bias place n : Nat) : List Char :=
  let least := threshold bias place
  if n < least then [digit n]
  else
    digit (least + (n - least) % (36 - least)) ::
      digitsFrom bias (place + 36) ((n - least) / (36 - least))
termination_by n
decreasing_by
  have hpos := threshold_pos bias place
  have hle := Nat.div_le_self (n - threshold bias place) (36 - threshold bias place)
  omega

/-- The bias that goes with a mean number. -/
def biasOfMean (mean place : Nat) : Nat :=
  if 455 < mean then biasOfMean (mean / 35) (place + 36) else place + 36 * mean / (mean + 38)
termination_by mean
decreasing_by exact Nat.div_lt_self (by omega) (by omega)

/-- The bias after a number, with the count of the characters so far. -/
def biasAfter (n count : Nat) (isFirst : Bool) : Nat :=
  let part := if isFirst then n / 700 else n / 2
  biasOfMean (part + part / count) 0

/-- What is written so far: the insertions passed over since the last number, the bias, and how many
characters are written. -/
structure Encoder where
  passed : Nat
  bias : Nat := 72
  count : Nat
  written : List Char

/-- Looks at one character while those with a code point are written. -/
def Encoder.step (asciiCount point : Nat) (state : Encoder) (c : Char) : Encoder :=
  if c.toNat < point then { state with passed := state.passed + 1 }
  else if c.toNat = point then
    { passed := 0
      bias := biasAfter state.passed (state.count + 1) (state.count = asciiCount)
      count := state.count + 1
      written := state.written ++ digitsFrom state.bias 36 state.passed }
  else state

/-- Writes the characters with each of some code points, in ascending order. -/
def encodeFrom (cs : List Char) (asciiCount : Nat) : Nat → List Nat → Encoder → List Char
  | _, [], state => state.written
  | next, point :: points, state =>
    let state := { state with passed := state.passed + (point - next) * (state.count + 1) }
    let state := cs.foldl (Encoder.step asciiCount point) state
    encodeFrom cs asciiCount (point + 1) points { state with passed := state.passed + 1 }

def encode (cs : List Char) : List Char :=
  let ascii := cs.filter isAscii
  let points := ((cs.filter fun c ↦ !isAscii c).map Char.toNat).mergeSort.eraseDups
  encodeFrom cs ascii.length 0x80 points
    { passed := 0, count := ascii.length
      written := if ascii = [] then [] else ascii ++ ['-'] }

/-- A number, each digit of which counts with a weight, and what follows it; a weight has to fit
into 32 bits. -/
def number? (bias : Nat) : Nat → Nat → List Char → Option (Nat × List Char)
  | _, _, [] => none
  | place, weight, c :: cs => do
    let value ← value? c
    let least := threshold bias place
    if value < least then return (value * weight, cs)
    if UInt32.size ≤ weight * (36 - least) then none
    let (rest, cs) ← number? bias (place + 36) (weight * (36 - least)) cs
    return (value * weight + rest, cs)

/-- Inserts the characters that some numbers tell; `fuel` bounds how many there are. -/
def insertFrom? (asciiCount : Nat) :
    Nat → (bias next index : Nat) → (inserted cs : List Char) → Option (List Char)
  | _, _, _, _, inserted, [] => some inserted
  | 0, _, _, _, _, _ :: _ => none
  | fuel + 1, bias, next, index, inserted, c :: cs => do
    let (n, rest) ← number? bias 36 1 (c :: cs)
    let count := inserted.length + 1
    let point := next + (index + n) / count
    let index := (index + n) % count
    if !point.isValidChar then none
    insertFrom? asciiCount fuel (biasAfter n count (inserted.length = asciiCount)) point (index + 1)
      (inserted.insertIdx index (Char.ofNat point)) rest

/-- The text that some characters stand for; without ASCII characters in it there is no dash. -/
def decode? (cs : List Char) : Option (List Char) :=
  let numbers := (cs.reverse.takeWhile (· ≠ '-')).reverse
  let ascii := cs.take (cs.length - numbers.length - 1)
  if ascii = [] ∧ cs.contains '-' then none
  else insertFrom? ascii.length numbers.length 72 0x80 0 ascii numbers

end OverlayGateway.Url.Punycode
