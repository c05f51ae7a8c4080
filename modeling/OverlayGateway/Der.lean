/-!
Data in the distinguished encoding: elements of a tag, a length and contents. There is one way to
write a length, tags have one byte, and contents are short. A reader takes elements from the front
of some bytes and leaves the rest.
-/

set_option autoImplicit false
set_option relaxedAutoImplicit false

namespace OverlayGateway.Der

structure Element where
  tag : UInt8
  contents : List UInt8
  deriving DecidableEq, Repr

def booleanTag : UInt8 := 0x01

def integerTag : UInt8 := 0x02

def bitStringTag : UInt8 := 0x03

def octetStringTag : UInt8 := 0x04

def nullTag : UInt8 := 0x05

def identifierTag : UInt8 := 0x06

def sequenceTag : UInt8 := 0x30

/-- The tag around the field of a number in a sequence. -/
def fieldTag (number : UInt8) : UInt8 := 0xA0 + number

/-- Contents have fewer bytes. -/
def sizeLimit : Nat := 0xFFFF

/-- The number that some bytes write in base 256. -/
def ofBytes (bytes : List UInt8) : Nat := bytes.foldl (fun n b ↦ n * 256 + b.toNat) 0

/-- The digits of a number in base 256, in as many bytes as it takes, zero in none. -/
def toBytes (n : Nat) : List UInt8 := if n = 0 then [] else toBytes (n / 256) ++ [UInt8.ofNat n]

/-- A number in base 256 with zeros in front, in as many bytes as said. -/
def wide (size n : Nat) : List UInt8 :=
  let bytes := toBytes n
  List.replicate (size - bytes.length) 0 ++ bytes

/-! ### Writing -/

/-- A length in as few bytes as it takes. -/
def lengthBytes (length : Nat) : List UInt8 :=
  if length < 0x80 then [UInt8.ofNat length]
  else UInt8.ofNat (0x80 + (toBytes length).length) :: toBytes length

/-- The bytes of an element. -/
def write (tag : UInt8) (contents : List UInt8) : List UInt8 :=
  tag :: lengthBytes contents.length ++ contents

def writeBits (bytes : List UInt8) : List UInt8 := write bitStringTag (0 :: bytes)

/-- The bytes of a positive number, whose first bit is zero. -/
def writeNat (n : Nat) : List UInt8 :=
  let bytes := toBytes n
  write integerTag (if (bytes.headD 0) < 0x80 then bytes else 0 :: bytes)

/-! ### Reading -/

/-- A length in as few bytes as it takes, and what follows it. -/
def length? : List UInt8 → Option (Nat × List UInt8)
  | [] => none
  | b :: bytes =>
    if b < 0x80 then some (b.toNat, bytes)
    else
      let count := b.toNat - 0x80
      let length := ofBytes (bytes.take count)
      if count = 0 ∨ 4 < count ∨ bytes.length < count then none
      else if length < 0x80 ∨ length < 1 <<< (8 * (count - 1)) then none
      else some (length, bytes.drop count)

/-- An element, and what follows it. -/
def element? : List UInt8 → Option (Element × List UInt8)
  | [] => none
  | tag :: bytes => do
    let (length, rest) ← length? bytes
    if tag &&& 0x1F = 0x1F ∨ sizeLimit ≤ length ∨ rest.length < length then none
    return (⟨tag, rest.take length⟩, rest.drop length)

/-- Takes a value from the front of some bytes, unless what stands there is none. -/
abbrev Reader (α : Type) := StateT (List UInt8) Option α

/-- The value that fills some bytes. -/
def Reader.whole? {α : Type} (reader : Reader α) (bytes : List UInt8) : Option α :=
  match reader bytes with
  | some (value, []) => some value
  | _ => none

/-- The contents of the next element, which has to have a tag. -/
def contents (tag : UInt8) : Reader (List UInt8) := fun bytes ↦
  match element? bytes with
  | some (element, rest) => if element.tag = tag then some (element.contents, rest) else none
  | none => none

/-- The value that fills the contents of the next element. -/
def within {α : Type} (tag : UInt8) (reader : Reader α) : Reader α := do
  StateT.lift (reader.whole? (← contents tag))

/-- Whether the next element is there and has a tag. -/
def isNext (tag : UInt8) : Reader Bool := return (← get).head? = some tag

/-- What an element gives, if it is next. -/
def optional {α : Type} (tag : UInt8) (reader : Reader α) : Reader (Option α) := do
  if ← isNext tag then return some (← reader) else return none

/-- The number in the next element, which is not negative. -/
def number : Reader Nat := do
  match ← contents integerTag with
  | [] => failure
  | 0 :: b :: bytes => if b < 0x80 then failure else return ofBytes (b :: bytes)
  | b :: bytes => if b < 0x80 then return ofBytes (b :: bytes) else failure

/-- Bytes that are stored as bits under a tag. -/
def bitsAs (tag : UInt8) : Reader (List UInt8) := do
  match ← contents tag with
  | 0 :: bytes => return bytes
  | _ => failure

def bits : Reader (List UInt8) := bitsAs bitStringTag

/-- A truth value that is left out where it is false. -/
def flag : Reader Bool := do
  match ← optional booleanTag (contents booleanTag) with
  | none => return false
  | some contents => StateT.lift ([([0x00], false), ([0xFF], true)].lookup contents)

/-- Takes elements to the end; `fuel` bounds their number. -/
def foldUpTo {α : Type} (step : α → Reader α) : Nat → α → Reader α
  | 0, value => return value
  | fuel + 1, value => do
    if (← get) = [] then return value else foldUpTo step fuel (← step value)

/-- Takes elements to the end, each of which has at least one byte. -/
def fold {α : Type} (step : α → Reader α) (value : α) : Reader α := do
  foldUpTo step (← get).length value

end OverlayGateway.Der
