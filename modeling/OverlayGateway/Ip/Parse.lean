import OverlayGateway.Ip.Address
import OverlayGateway.Text.Basic
/-!
Reading addresses. Version 4 takes four decimal numbers below 256 without leading zeros. Version 6
takes eight groups of at most four hexadecimal digits, where one `::` may stand for one or more
zero groups and a version 4 address may stand for the last two. Neither brackets nor zones belong
to an address.
-/

set_option autoImplicit false
set_option relaxedAutoImplicit false

namespace OverlayGateway.Ip

/-- The text of the one way in which an address can be malformed. -/
def syntaxMessage : String := "invalid IP address syntax"

/-- A byte in decimal, of at most three digits and without leading zeros, and what follows it. -/
def readOctet? (cs : List Char) : Option (UInt8 × List Char) :=
  let digits := cs.takeWhile Char.isDigit
  let value := digits.foldl (fun n c ↦ n * 10 + (c.toNat - '0'.toNat)) 0
  if digits = [] ∨ 3 < digits.length ∨ 255 < value ∨ (digits.head? = some '0' ∧ 1 < digits.length)
  then none
  else some (UInt8.ofNat value, cs.dropWhile Char.isDigit)

/-- Drops a given character. -/
def readChar? (c : Char) : List Char → Option (List Char)
  | [] => none
  | first :: rest => if first = c then some rest else none

/-- A dotted version 4 address and what follows it. -/
def readV4? (cs : List Char) : Option (V4 × List Char) := do
  let (a, cs) ← readOctet? cs
  let (b, cs) ← readOctet? (← readChar? '.' cs)
  let (c, cs) ← readOctet? (← readChar? '.' cs)
  let (d, cs) ← readOctet? (← readChar? '.' cs)
  return (⟨a, b, c, d⟩, cs)

/-- A group of one to four hexadecimal digits and what follows it. -/
def readGroup? (cs : List Char) : Option (UInt16 × List Char) :=
  let isHex := fun c ↦ (Text.hexValue? c).isSome
  let digits := cs.takeWhile isHex
  if digits = [] ∨ 4 < digits.length then none
  else
    some (UInt16.ofNat (digits.foldl (fun n c ↦ n * 16 + (Text.hexValue? c).getD 0) 0),
      cs.dropWhile isHex)

/-- Drops the colon in front of every group but the first. -/
def readSeparator? (first : Bool) (cs : List Char) : Option (List Char) :=
  if first then some cs else readChar? ':' cs

/-- As many groups as can be read, at most `limit`; whether the last two came from a version 4
address; and what follows. -/
def readGroups : Nat → Bool → List Char → List UInt16 × Bool × List Char
  | 0, _, cs => ([], false, cs)
  | limit + 1, first, cs =>
    match (if 0 < limit then (readSeparator? first cs).bind readV4? else none) with
    | some (v4, rest) => ([v4.highGroup, v4.lowGroup], true, rest)
    | none =>
      match (readSeparator? first cs).bind readGroup? with
      | none => ([], false, cs)
      | some (group, rest) =>
        let (groups, embedded, rest) := readGroups limit false rest
        (group :: groups, embedded, rest)

/-- The address of eight groups. -/
def V6.ofList? (groups : List UInt16) : Option V6 :=
  if h : groups.length = 8 then some ⟨⟨groups.toArray, by simpa using h⟩⟩ else none

/-- A version 6 address and what follows it. -/
def readV6? (cs : List Char) : Option (V6 × List Char) :=
  match readGroups 8 true cs with
  | (front, embedded, rest) =>
    if front.length = 8 then (V6.ofList? front).map fun address ↦ (address, rest)
    else if embedded then none
    else
      match rest with
      | ':' :: ':' :: rest =>
        let (back, _, rest) := readGroups (8 - (front.length + 1)) true rest
        let zeros := List.replicate (8 - front.length - back.length) 0
        (V6.ofList? (front ++ zeros ++ back)).map fun address ↦ (address, rest)
      | _ => none

/-- An address and what follows it. -/
def readAddress? (cs : List Char) : Option (Address × List Char) :=
  match readV4? cs with
  | some (address, rest) => some (.v4 address, rest)
  | none => (readV6? cs).map fun (address, rest) ↦ (.v6 address, rest)

/-- The address that a whole text denotes. -/
def Address.parse? (s : String) : Option Address :=
  match readAddress? s.toList with
  | some (address, []) => some address
  | _ => none

/-- The version 4 address that a whole text denotes. -/
def V4.parse? (s : String) : Option V4 :=
  match readV4? s.toList with
  | some (address, []) => some address
  | _ => none

/-- A port after its colon, at the end of a text. -/
def readPort? (cs : List Char) : Option UInt16 := do
  let digits ← readChar? ':' cs
  if digits.all Char.isDigit then
    return UInt16.ofNat (← (Decimal.readChars UInt16.size digits).toOption)
  else none

/-- The socket address that a whole text denotes; a version 6 address stands in brackets. -/
def Socket.parse? (s : String) : Option Socket :=
  match s.toList with
  | '[' :: cs => do
    let (address, rest) ← readV6? cs
    return ⟨.v6 address, ← readPort? (← readChar? ']' rest)⟩
  | cs => do
    let (address, rest) ← readV4? cs
    return ⟨.v4 address, ← readPort? rest⟩

end OverlayGateway.Ip
