import OverlayGateway.Decimal.Unsigned
/-!
Base64 with the standard alphabet and canonical padding. Reading accepts exactly what writing
produces; anything else is refused with the place of the first symbol that cannot stand where it
stands, except that a foreign symbol which alone exceeds whole groups of four is reported first.

As it stands on lines, blanks count for nothing, the padding may be left out, and the bits behind
the last byte may be any.
-/

set_option autoImplicit false
set_option relaxedAutoImplicit false

namespace OverlayGateway.Base64

/-- Why some bytes are not base64. -/
inductive DecodeError where
  | badSymbol (byte : UInt8) (offset : Nat)
  /-- The last group has a single symbol. -/
  | badLength (length : Nat)
  /-- The last symbol has bits that belong to no byte. -/
  | badLastSymbol (byte : UInt8) (offset : Nat)
  | badPadding
  deriving DecidableEq, Repr

/-- A byte and its place, in words. -/
def placed (byte : UInt8) (offset : Nat) : String :=
  "symbol " ++ Decimal.write byte.toNat ++ ", offset " ++ Decimal.write offset ++ "."

def DecodeError.message : DecodeError → String
  | .badSymbol byte offset => "Invalid " ++ placed byte offset
  | .badLength length => "Invalid input length: " ++ Decimal.write length
  | .badLastSymbol byte offset => "Invalid last " ++ placed byte offset
  | .badPadding => "Invalid padding"

def pad : UInt8 := 0x3D

/-- The symbol of a six-bit value. -/
def symbol (n : Nat) : UInt8 :=
  if n < 26 then UInt8.ofNat (0x41 + n)
  else if n < 52 then UInt8.ofNat (0x61 + (n - 26))
  else if n < 62 then UInt8.ofNat (0x30 + (n - 52))
  else if n = 62 then 0x2B
  else 0x2F

/-- The six-bit value of a symbol. -/
def value? (c : UInt8) : Option Nat :=
  if 0x41 ≤ c ∧ c ≤ 0x5A then some (c.toNat - 0x41)
  else if 0x61 ≤ c ∧ c ≤ 0x7A then some (c.toNat - 0x61 + 26)
  else if 0x30 ≤ c ∧ c ≤ 0x39 then some (c.toNat - 0x30 + 52)
  else if c = 0x2B then some 62
  else if c = 0x2F then some 63
  else none

def encode : List UInt8 → List UInt8
  | a :: b :: c :: rest =>
    symbol (a.toNat / 4) :: symbol (a.toNat % 4 * 16 + b.toNat / 16) ::
      symbol (b.toNat % 16 * 4 + c.toNat / 64) :: symbol (c.toNat % 64) :: encode rest
  | [a, b] =>
    [symbol (a.toNat / 4), symbol (a.toNat % 4 * 16 + b.toNat / 16), symbol (b.toNat % 16 * 4), pad]
  | [a] => [symbol (a.toNat / 4), symbol (a.toNat % 4 * 16), pad, pad]
  | [] => []

/-- The value of a symbol at a place. -/
def valueAt (offset : Nat) (c : UInt8) : Except DecodeError Nat :=
  match value? c with
  | some value => .ok value
  | none => .error (.badSymbol c offset)

/-- The bytes of a full group of four symbols. -/
def quad (w x y z : Nat) : List UInt8 :=
  [UInt8.ofNat (w * 4 + x / 16), UInt8.ofNat (x % 16 * 16 + y / 4), UInt8.ofNat (y % 4 * 64 + z)]

/-- The values and the number of pads of the last group. A pad may follow two symbols at the
earliest, and only pads may follow a pad. -/
def lastValues (offset : Nat) : Nat → List UInt8 → Except DecodeError (List Nat × Nat)
  | _, [] => .ok ([], 0)
  | index, c :: cs =>
    if c = pad then
      if index < 2 then .error (.badSymbol pad (offset + index))
      else if cs.all (· == pad) then .ok ([], cs.length + 1)
      else .error (.badSymbol pad (offset + index))
    else do
      let value ← valueAt (offset + index) c
      let (values, pads) ← lastValues offset (index + 1) cs
      return (value :: values, pads)

/-- The bytes of the last group, which has at most four symbols. -/
def decodeLast (offset : Nat) (cs : List UInt8) : Except DecodeError (List UInt8) := do
  let (values, pads) ← lastValues offset 0 cs
  if values.length = 1 then throw (.badLength (offset + 1))
  if (values.length + pads) % 4 ≠ 0 then throw .badPadding
  let last := (cs[values.length - 1]?).getD pad
  match values with
  | [w, x, y, z] => return quad w x y z
  | [w, x, y] =>
    if y % 4 = 0 then return [UInt8.ofNat (w * 4 + x / 16), UInt8.ofNat (x % 16 * 16 + y / 4)]
    else throw (.badLastSymbol last (offset + 2))
  | [w, x] =>
    if x % 16 = 0 then return [UInt8.ofNat (w * 4 + x / 16)]
    else throw (.badLastSymbol last (offset + 1))
  | _ => return []

/-- Decodes groups of four from a place on; the last group may be padded. -/
def decodeFrom (offset : Nat) : List UInt8 → Except DecodeError (List UInt8)
  | a :: b :: c :: d :: e :: rest => do
    let w ← valueAt offset a
    let x ← valueAt (offset + 1) b
    let y ← valueAt (offset + 2) c
    let z ← valueAt (offset + 3) d
    let bytes ← decodeFrom (offset + 4) (e :: rest)
    return quad w x y z ++ bytes
  | cs => decodeLast offset cs

/-- The bytes that some symbols stand for. -/
def decode (cs : List UInt8) : Except DecodeError (List UInt8) :=
  match cs.getLast? with
  | some last =>
    if cs.length % 4 = 1 ∧ last ≠ pad ∧ value? last = none then
      .error (.badSymbol last (cs.length - 1))
    else decodeFrom 0 cs
  | none => .ok []

/-! ### Base64 on lines -/

/-- A space, or one of the characters that move to another column or line. -/
def isBlank (b : UInt8) : Bool := b = 0x20 || (0x09 ≤ b && b ≤ 0x0D)

/-- The bytes of six-bit values, of which the last group may be short. -/
def ofValues? : List Nat → Option (List UInt8)
  | w :: x :: y :: z :: rest => (ofValues? rest).map (quad w x y z ++ ·)
  | [w, x, y] => some ((quad w x y 0).take 2)
  | [w, x] => some ((quad w x 0 0).take 1)
  | [_] => none
  | [] => some []

/-- The bytes that some symbols stand for, whatever blanks are between them. -/
def decodeLoose? (bytes : List UInt8) : Option (List UInt8) := do
  let symbols := bytes.filter fun b ↦ !isBlank b
  let data := symbols.takeWhile (· ≠ pad)
  let pads := symbols.drop data.length
  if pads.any (· ≠ pad) then none
  if pads ≠ [] ∧ (2 < pads.length ∨ symbols.length % 4 ≠ 0) then none
  ofValues? (← data.mapM value?)

end OverlayGateway.Base64
