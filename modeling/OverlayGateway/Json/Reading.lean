import OverlayGateway.Json.Numeral
import OverlayGateway.Text.Basic
import OverlayGateway.Text.Utf8
/-!
Reading JSON from bytes. What is read is a tree in reading order that also shows where the text
stops being JSON: an array or an object may be left open, and a value may be broken off. Whoever
decodes the tree from left to right therefore meets a wrong value and a wrong text in the order in
which they stand.
-/

set_option autoImplicit false
set_option relaxedAutoImplicit false

namespace OverlayGateway.Json

/-- What stands in a string: a byte, or a number for a UTF-16 code unit. -/
inductive Piece where
  | byte (value : UInt8)
  | unit (value : Nat)
  deriving DecidableEq, Repr

/-- A value as far as it could be read. -/
inductive Reading where
  | null
  | bool (value : Bool)
  | number (numeral : Numeral)
  /-- A string, which need not be a text: its code units may not pair, its bytes may be no UTF-8. -/
  | string (text : Option String)
  /-- An array and whether it is closed after the last item. -/
  | array (items : List Reading) (closed : Bool)
  /-- An object and whether it is closed after the last member. -/
  | object (members : List (Option String × Reading)) (closed : Bool)
  /-- No value. -/
  | broken

def isBlankByte (b : UInt8) : Bool := b == 0x20 || b == 0x0A || b == 0x0D || b == 0x09

def skipBlanks (bytes : List UInt8) : List UInt8 := bytes.dropWhile isBlankByte

/-- The value of a byte as a hexadecimal digit. -/
def hexOfByte? (b : UInt8) : Option Nat := Text.hexValue? (Char.ofNat b.toNat)

/-- The code unit of four hexadecimal digits. -/
def unitOf? (a b c d : UInt8) : Option Nat := do
  return (((← hexOfByte? a) * 16 + (← hexOfByte? b)) * 16 + (← hexOfByte? c)) * 16 +
    (← hexOfByte? d)

/-- The byte that an escape of one letter stands for. -/
def escaped? (letter : UInt8) : Option UInt8 :=
  if letter = 0x22 ∨ letter = 0x5C ∨ letter = 0x2F then some letter
  else if letter = 0x62 then some 0x08
  else if letter = 0x66 then some 0x0C
  else if letter = 0x6E then some 0x0A
  else if letter = 0x72 then some 0x0D
  else if letter = 0x74 then some 0x09
  else none

/-- The pieces up to the closing quote, behind those already read in reverse. -/
def readPieces? (read : List Piece) : List UInt8 → Option (List Piece × List UInt8)
  | [] => none
  | 0x22 :: rest => some (read.reverse, rest)
  | [0x5C] => none
  | 0x5C :: 0x75 :: a :: b :: c :: d :: rest =>
    match unitOf? a b c d with
    | some unit => readPieces? (.unit unit :: read) rest
    | none => none
  | 0x5C :: letter :: rest =>
    match escaped? letter with
    | some byte => readPieces? (.byte byte :: read) rest
    | none => none
  | byte :: rest => if byte < 0x20 then none else readPieces? (.byte byte :: read) rest

/-- The bytes of a string whose code units make characters, in reverse. -/
def pieceBytes? (bytes : List UInt8) : List Piece → Option (List UInt8)
  | [] => some bytes.reverse
  | .byte byte :: rest => pieceBytes? (byte :: bytes) rest
  | .unit high :: rest =>
    if 0xD800 ≤ high ∧ high < 0xDC00 then
      match rest with
      | .unit low :: rest =>
        if 0xDC00 ≤ low ∧ low < 0xE000 then
          let char := Char.ofNat (0x10000 + (high - 0xD800) * 0x400 + (low - 0xDC00))
          pieceBytes? ((String.utf8EncodeChar char).reverse ++ bytes) rest
        else none
      | _ => none
    else if 0xDC00 ≤ high ∧ high < 0xE000 then none
    else pieceBytes? ((String.utf8EncodeChar (Char.ofNat high)).reverse ++ bytes) rest

/-- A string after its opening quote: its text, if it is one, and what follows. -/
def readString? (bytes : List UInt8) : Option (Option String × List UInt8) :=
  (readPieces? [] bytes).map fun (pieces, rest) ↦ ((pieceBytes? [] pieces).bind Text.ofUtf8?, rest)

/-- What follows a given word. -/
def readWord? (word bytes : List UInt8) : Option (List UInt8) :=
  if word.isPrefixOf bytes then some (bytes.drop word.length) else none

/-- A value that is given by a word. -/
def readLiteral (word : String) (value : Reading) (bytes : List UInt8) : Reading × List UInt8 :=
  match readWord? (Text.utf8 word) bytes with
  | some rest => (value, rest)
  | none => (.broken, [])

mutual

/-- A value that may have blanks in front, and what follows it; `fuel` bounds the nesting. -/
def readValue : Nat → List UInt8 → Reading × List UInt8
  | 0, _ => (.broken, [])
  | fuel + 1, bytes =>
    match skipBlanks bytes with
    | [] => (.broken, [])
    | first :: rest =>
      if first = 0x22 then
        match readString? rest with
        | some (text, rest) => (.string text, rest)
        | none => (.broken, [])
      else if first = 0x5B then
        match skipBlanks rest with
        | 0x5D :: rest => (.array [] true, rest)
        | rest => readItems fuel [] rest
      else if first = 0x7B then
        match skipBlanks rest with
        | 0x7D :: rest => (.object [] true, rest)
        | rest => readMembers fuel [] rest
      else if first = 0x6E then readLiteral "null" .null (first :: rest)
      else if first = 0x74 then readLiteral "true" (.bool true) (first :: rest)
      else if first = 0x66 then readLiteral "false" (.bool false) (first :: rest)
      else
        match readNumeral? (first :: rest) with
        | some (numeral, rest) => (.number numeral, rest)
        | none => (.broken, [])

/-- The items of an array from one of them on, behind those already read in reverse. -/
def readItems : Nat → List Reading → List UInt8 → Reading × List UInt8
  | 0, _, _ => (.broken, [])
  | fuel + 1, read, bytes =>
    let (item, rest) := readValue fuel bytes
    match skipBlanks rest with
    | 0x5D :: rest => (.array (item :: read).reverse true, rest)
    | 0x2C :: rest => readItems fuel (item :: read) rest
    | _ => (.array (item :: read).reverse false, [])

/-- The members of an object from one of them on, behind those already read in reverse. -/
def readMembers : Nat → List (Option String × Reading) → List UInt8 → Reading × List UInt8
  | 0, _, _ => (.broken, [])
  | fuel + 1, read, bytes =>
    match skipBlanks bytes with
    | 0x22 :: rest =>
      match readString? rest with
      | none => (.object read.reverse false, [])
      | some (key, rest) =>
        match skipBlanks rest with
        | 0x3A :: rest =>
          let (value, rest) := readValue fuel rest
          match skipBlanks rest with
          | 0x7D :: rest => (.object ((key, value) :: read).reverse true, rest)
          | 0x2C :: rest => readMembers fuel ((key, value) :: read) rest
          | _ => (.object ((key, value) :: read).reverse false, [])
        | _ => (.object ((key, .broken) :: read).reverse false, [])
    | _ => (.object read.reverse false, [])

end

/-- A whole text: the value in it, and whether only blanks follow. -/
structure Document where
  value : Reading
  clean : Bool

def readDocument (bytes : List UInt8) : Document :=
  let (value, rest) := readValue (2 * bytes.length + 2) bytes
  ⟨value, (skipBlanks rest).isEmpty⟩

end OverlayGateway.Json
