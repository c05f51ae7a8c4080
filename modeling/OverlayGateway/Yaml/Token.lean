import OverlayGateway.Text.Basic
/-!
The tokens of a YAML text and the place in the text at which one is read. Indentation shows in the
tokens that open and close blocks, so whoever reads tokens has no columns to count.
-/

set_option autoImplicit false
set_option relaxedAutoImplicit false

namespace OverlayGateway.Yaml

inductive Token where
  | streamEnd
  | versionDirective (major minor : Nat)
  | tagDirective (handle expansion : String)
  | documentStart
  | documentEnd
  | blockSequence
  | blockMapping
  | blockEnd
  | flowSequence
  | flowSequenceEnd
  | flowMapping
  | flowMappingEnd
  | blockEntry
  | flowEntry
  | key
  | value
  | alias (name : String)
  | anchor (name : String)
  | tag (handle suffix : String)
  /-- A scalar; one without quotes and without a sign of a block is plain. -/
  | scalar (text : String) (isPlain : Bool)
  deriving DecidableEq, Repr

/-- What a character is for the structure of a text. -/
def isSpaceOrTab (c : Char) : Bool := c = ' ' || c = '\t'

/-- The characters that end a line. -/
def isBreak (c : Char) : Bool :=
  c = '\r' || c = '\n' || c.toNat = 0x85 || c.toNat = 0x2028 || c.toNat = 0x2029

def isGap (c : Char) : Bool := isSpaceOrTab c || isBreak c

/-- Whether a text starts with a blank or a break, or is at its end. -/
def startsGap (cs : List Char) : Bool := cs.head?.all isGap

/-- The characters of anchors and of the handles of tags. -/
def isWordChar (c : Char) : Bool := c.isAlphanum || c = '_' || c = '-'

/-- Characters that a text may hold. -/
def isAllowed (c : Char) : Bool :=
  c = '\t' || c = '\n' || c = '\r' || (' ' ≤ c && c ≤ '~') || c.toNat = 0x85 ||
    (0xA0 ≤ c.toNat && c.toNat ≤ 0xFFFD) || 0x10000 ≤ c.toNat

/-- The mark that shows the order of bytes, which counts for nothing at the start of a line. -/
def byteOrderMark : Char := '\ufeff'

/-- A place in a text: what follows it, how many characters are in front of it, and in which line
and column it is. -/
structure Cursor where
  chars : List Char
  index : Nat := 0
  line : Nat := 0
  column : Nat := 0
  deriving DecidableEq, Repr

namespace Cursor

/-- Behind the next characters, none of which ends a line. -/
def advance (cursor : Cursor) (count : Nat) : Cursor :=
  { cursor with
    chars := cursor.chars.drop count
    index := cursor.index + count
    column := cursor.column + count }

def skip (cursor : Cursor) : Cursor := cursor.advance 1

/-- Behind the characters of a kind, none of which ends a line. -/
def skipWhile (cursor : Cursor) (isSkipped : Char → Bool) : Cursor :=
  cursor.advance (cursor.chars.takeWhile isSkipped).length

def skipBlanks (cursor : Cursor) : Cursor := cursor.skipWhile isSpaceOrTab

/-- Behind the comment that stands here, if there is one. -/
def skipComment (cursor : Cursor) : Cursor :=
  if cursor.chars.head? = some '#' then cursor.skipWhile fun c ↦ !isBreak c else cursor

/-- What the end of a line stands for, and the start of the next line. -/
def lineBreak? (cursor : Cursor) : Option (Char × Cursor) :=
  let next := fun (c : Char) (rest : List Char) (count : Nat) ↦
    some (c, { chars := rest, index := cursor.index + count, line := cursor.line + 1 : Cursor })
  match cursor.chars with
  | '\r' :: '\n' :: rest => next '\n' rest 2
  | c :: rest =>
    if c = '\r' ∨ c = '\n' ∨ c.toNat = 0x85 then next '\n' rest 1
    else if isBreak c then next c rest 1
    else none
  | [] => none

/-- Behind the end of the line, if it is here. -/
def skipBreak (cursor : Cursor) : Cursor := (cursor.lineBreak?.map Prod.snd).getD cursor

/-- Behind a comment up to the next line; anything else must not be there. -/
def endLine? (cursor : Cursor) : Option Cursor :=
  let cursor := cursor.skipBlanks.skipComment
  if cursor.chars.head?.all isBreak then some cursor.skipBreak else none

/-- Whether a line starts here with three characters that are on their own. -/
def isAtMarker (cursor : Cursor) (marker : List Char) : Bool :=
  cursor.column = 0 && marker.isPrefixOf cursor.chars && startsGap (cursor.chars.drop 3)

def startMarker : List Char := ['-', '-', '-']

def endMarker : List Char := ['.', '.', '.']

/-- Whether a document starts or ends here. -/
def isAtDocument (cursor : Cursor) : Bool :=
  cursor.isAtMarker startMarker || cursor.isAtMarker endMarker

end Cursor

end OverlayGateway.Yaml
