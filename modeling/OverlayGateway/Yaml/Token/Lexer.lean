import OverlayGateway.Yaml.Token.Scalar
/-!
Texts as tokens. A block opens where a line starts in a deeper column than the block around it and
closes where one starts further left. What turns out to be a key only at its colon gets its token
later, in front of those read meanwhile; it has to be short and on one line.
-/

set_option autoImplicit false
set_option relaxedAutoImplicit false

namespace OverlayGateway.Yaml

/-- A place at which a key may have started. -/
structure PossibleKey where
  /-- Whether it has to be a key, since it starts in the column of a block. -/
  isRequired : Bool
  /-- How many tokens are in front of it. -/
  position : Nat
  start : Cursor

/-- What has been read. Every pair of brackets has its own possible key; outside of brackets
`indent` is the column of the innermost block, or -1. -/
structure Lexer where
  cursor : Cursor
  tokens : Array Token := #[]
  indent : Int := -1
  outer : List Int := []
  possible : Option PossibleKey := none
  /-- The possible keys around the brackets that are open. -/
  enclosing : List (Option PossibleKey) := []
  /-- Whether a key may start here. -/
  keyAllowed : Bool := true

namespace Lexer

def inFlow (lexer : Lexer) : Bool := lexer.enclosing ≠ []

def push (lexer : Lexer) (token : Token) : Lexer :=
  { lexer with tokens := lexer.tokens.push token }

/-- The longest key, in characters. -/
def longestKey : Nat := 1024

/-- Whether a key that starts at a place cannot end here any more. -/
def PossibleKey.isStale (key : PossibleKey) (cursor : Cursor) : Bool :=
  key.start.line < cursor.line || key.start.index + longestKey < cursor.index

/-- Gives up a possible key that would be too long; one that has to be a key is a fault. -/
def dropStale? (cursor : Cursor) : Option PossibleKey → Option (Option PossibleKey)
  | none => some none
  | some key =>
    if PossibleKey.isStale key cursor then (if key.isRequired then none else some none)
    else some (some key)

def dropAllStale? (lexer : Lexer) : Option Lexer := do
  let enclosing ← lexer.enclosing.mapM (dropStale? lexer.cursor)
  return { lexer with possible := ← dropStale? lexer.cursor lexer.possible, enclosing }

/-- Gives up the possible key, for which a fault arises if it has to be one. -/
def dropKey? (lexer : Lexer) : Option Lexer :=
  if lexer.possible.any PossibleKey.isRequired then none else some { lexer with possible := none }

/-- Notes that a key may start here, if it may. -/
def noteKey? (lexer : Lexer) : Option Lexer :=
  if lexer.keyAllowed then do
    let isRequired := !lexer.inFlow && lexer.indent = (lexer.cursor.column : Int)
    return { ← lexer.dropKey? with
      possible := some ⟨isRequired, lexer.tokens.size, lexer.cursor⟩ }
  else some lexer

/-- Opens a block in a column, unless the innermost one is as deep. -/
def openBlock (lexer : Lexer) (column position : Nat) (token : Token) : Lexer :=
  if lexer.inFlow || (column : Int) ≤ lexer.indent then lexer
  else
    { lexer with
      indent := column
      outer := lexer.indent :: lexer.outer
      tokens := lexer.tokens.insertIdx! position token }

/-- Closes the blocks that are deeper than a column. -/
def closeBlocks (column : Int) : List Int → Lexer → Lexer
  | outer, lexer =>
    if lexer.inFlow || lexer.indent ≤ column then lexer
    else
      match outer with
      | [] => lexer
      | indent :: outer =>
        closeBlocks column outer { lexer.push .blockEnd with indent, outer }

/-- Closes all blocks; nothing of what was read can be a key any more. -/
def endBlocks? (lexer : Lexer) : Option Lexer := do
  let lexer := closeBlocks (-1) lexer.outer lexer
  return { ← lexer.dropKey? with keyAllowed := false }

/-- Reads a token of some characters. -/
def take (lexer : Lexer) (count : Nat) (token : Token) : Lexer :=
  { lexer.push token with cursor := lexer.cursor.advance count }

/-- Behind blanks, comments and breaks. In front of a possible key of a block, tabs do not count as
blanks. -/
def skipGaps : Nat → Lexer → Lexer
  | 0, lexer => lexer
  | fuel + 1, lexer =>
    let cursor := lexer.cursor
    let cursor :=
      if cursor.column = 0 ∧ cursor.chars.head? = some byteOrderMark then cursor.skip else cursor
    let isSkipped := fun c ↦ c = ' ' || ((lexer.inFlow || !lexer.keyAllowed) && c = '\t')
    let cursor := (cursor.skipWhile isSkipped).skipComment
    match cursor.lineBreak? with
    | none => { lexer with cursor }
    | some (_, cursor) =>
      skipGaps fuel { lexer with cursor, keyAllowed := lexer.keyAllowed || !lexer.inFlow }

/-- A number of at most nine digits, and what follows. -/
def versionNumber? (cursor : Cursor) : Option (Nat × Cursor) :=
  let digits := cursor.chars.takeWhile Char.isDigit
  if digits = [] ∨ 9 < digits.length then none
  else
    some (digits.foldl (fun n c ↦ n * 10 + (c.toNat - '0'.toNat)) 0, cursor.advance digits.length)

/-- The handle of a tag: an exclamation mark, or a word between two. Without the second one the word
belongs to the tag itself. -/
def handle? (cursor : Cursor) : Option (List Char × Cursor) :=
  match cursor.chars with
  | '!' :: rest =>
    let word := rest.takeWhile isWordChar
    let cursor := cursor.advance (1 + word.length)
    if cursor.chars.head? = some '!' then some ('!' :: word ++ ['!'], cursor.skip)
    else some ('!' :: word, cursor)
  | _ => none

/-- Characters of a tag. -/
def isTagChar (inBrackets : Bool) (c : Char) : Bool :=
  isWordChar c || ";/?:@&=+$.!~*'()".toList.contains c || (inBrackets && ",[]".toList.contains c)

/-- A byte that is written with a percent sign. -/
def escapedByte? : List Char → Option (UInt8 × List Char)
  | '%' :: a :: b :: rest => do
    return (UInt8.ofNat ((← Text.hexValue? a) * 16 + (← Text.hexValue? b)), rest)
  | _ => none

/-- How many bytes the encoding of a character has, by the first one. -/
def encodedLength? (b : UInt8) : Option Nat :=
  if b < 0x80 then some 1
  else if b < 0xC0 then none
  else if b < 0xE0 then some 2
  else if b < 0xF0 then some 3
  else if b < 0xF8 then some 4
  else none

/-- A character whose bytes are written with percent signs. -/
def escapedChar? (cs : List Char) : Option (Char × List Char) := do
  let (b, _) ← escapedByte? cs
  let count ← encodedLength? b
  let bytes ← (List.range count).mapM fun n ↦ (escapedByte? (cs.drop (3 * n))).map Prod.fst
  let text ← String.fromUTF8? bytes.toByteArray
  let c ← text.toList.head?
  return (c, cs.drop (3 * count))

/-- The characters of a tag, and how many were read for them. -/
def tagChars? (inBrackets : Bool) : Nat → List Char → Option (List Char × Nat)
  | 0, _ => some ([], 0)
  | fuel + 1, cs =>
    match cs with
    | [] => some ([], 0)
    | '%' :: _ => do
      let (c, rest) ← escapedChar? cs
      let (text, count) ← tagChars? inBrackets fuel rest
      return (c :: text, count + (cs.length - rest.length))
    | c :: rest =>
      if isTagChar inBrackets c then
        (tagChars? inBrackets fuel rest).map fun (text, count) ↦ (c :: text, count + 1)
      else some ([], 0)

/-- A tag behind a beginning of it, which must not be empty as a whole. -/
def tagText? (inBrackets : Bool) (start : List Char) (cursor : Cursor) :
    Option (List Char × Cursor) := do
  let (text, count) ← tagChars? inBrackets cursor.chars.length cursor.chars
  if start = [] ∧ text = [] then none
  return (start.drop 1 ++ text, cursor.advance count)

/-- A directive behind its percent sign. -/
def directive? (cursor : Cursor) : Option (Token × Cursor) := do
  let name := cursor.chars.takeWhile isWordChar
  let cursor := cursor.advance name.length
  if !startsGap cursor.chars then none
  let cursor := cursor.skipBlanks
  if name = "YAML".toList then
    let (major, cursor) ← versionNumber? cursor
    if cursor.chars.head? ≠ some '.' then none
    let (minor, cursor) ← versionNumber? cursor.skip
    return (.versionDirective major minor, ← cursor.endLine?)
  else if name = "TAG".toList then
    let (handle, cursor) ← handle? cursor
    if handle ≠ ['!'] ∧ (handle.getLast? ≠ some '!') then none
    if !cursor.chars.head?.any isSpaceOrTab then none
    let (expansion, cursor) ← tagText? true [] cursor.skipBlanks
    if !startsGap cursor.chars then none
    return (.tagDirective (String.ofList handle) (String.ofList expansion), ← cursor.endLine?)
  else none

/-- The name of an anchor or an alias behind its sign. -/
def anchorName? (cursor : Cursor) : Option (String × Cursor) :=
  let name := cursor.chars.takeWhile isWordChar
  let cursor := cursor.advance name.length
  if name ≠ [] ∧ cursor.chars.head?.all fun c ↦ isGap c || "?:,]\x7d%@\x60".toList.contains c then
    some (String.ofList name, cursor)
  else none

/-- A tag: spelled out in angle brackets, or a handle and the rest. -/
def tag? (inFlow : Bool) (cursor : Cursor) : Option (Token × Cursor) := do
  let (handle, suffix, cursor) ←
    if cursor.chars.tail.head? = some '<' then do
      let (suffix, cursor) ← tagText? true [] (cursor.advance 2)
      if cursor.chars.head? ≠ some '>' then none
      pure (([] : List Char), suffix, cursor.skip)
    else do
      let (handle, cursor) ← handle? cursor
      if handle ≠ ['!'] ∧ handle.getLast? = some '!' then
        let (suffix, cursor) ← tagText? false [] cursor
        pure (handle, suffix, cursor)
      else
        let (suffix, cursor) ← tagText? false handle cursor
        pure (if suffix = [] then ([], ['!'], cursor) else (['!'], suffix, cursor))
  if startsGap cursor.chars || (inFlow && cursor.chars.head? = some ',') then
    return (.tag (String.ofList handle) (String.ofList suffix), cursor)
  else none

/-- The token for the colon behind a key, and those of the key in front of what was read for it. -/
def readValue? (lexer : Lexer) : Option Lexer :=
  match lexer.possible with
  | some key =>
    let lexer := { lexer with tokens := lexer.tokens.insertIdx! key.position .key }
    let lexer := lexer.openBlock key.start.column key.position .blockMapping
    some { lexer.take 1 .value with possible := none, keyAllowed := false }
  | none =>
    if lexer.inFlow then some { lexer.take 1 .value with keyAllowed := false }
    else if lexer.keyAllowed then
      let lexer := lexer.openBlock lexer.cursor.column lexer.tokens.size .blockMapping
      some { lexer.take 1 .value with keyAllowed := true }
    else none

/-- The token for a dash or a question mark, which opens a block where a key may start. -/
def readEntry? (lexer : Lexer) (block token : Token) (keyFollows : Bool) : Option Lexer :=
  if lexer.inFlow || lexer.keyAllowed then do
    let lexer := lexer.openBlock lexer.cursor.column lexer.tokens.size block
    return { (← lexer.dropKey?).take 1 token with keyAllowed := keyFollows }
  else none

/-- The token for a scalar or for what may stand in front of a node, where a key may start. -/
def readPart? (lexer : Lexer) (read : Option (Token × Cursor)) (keyFollows : Bool) :
    Option Lexer := do
  let (token, cursor) ← read
  return { (← lexer.noteKey?).push token with cursor, keyAllowed := keyFollows }

/-- Whether a scalar without quotes starts here. -/
def startsPlain (inFlow : Bool) (c : Char) (cs : List Char) : Bool :=
  !(isGap c || "-?:,[]\x7b\x7d#&*!|>'\"%@\x60".toList.contains c) ||
    (c = '-' && !cs.head?.any isSpaceOrTab) ||
    (!inFlow && (c = '?' || c = ':') && !startsGap cs)

def quoted? (lexer : Lexer) (quote : Char) : Option Lexer :=
  lexer.readPart?
    ((Quoted.read? quote lexer.cursor).map fun (text, cursor) ↦
      (.scalar (String.ofList text) false, cursor)) false

def block? (lexer : Lexer) (isLiteral : Bool) : Option Lexer := do
  let lexer ← lexer.dropKey?
  let (text, cursor) ← Block.read? isLiteral (lexer.indent + 1).toNat lexer.cursor.skip
  return { lexer.push (.scalar (String.ofList text) false) with cursor, keyAllowed := true }

def plain? (lexer : Lexer) : Option Lexer := do
  let (text, isBroken, cursor) ←
    Plain.read? lexer.inFlow (lexer.indent + 1).toNat lexer.cursor
  lexer.readPart? (some (.scalar (String.ofList text) true, cursor)) isBroken

/-- Reads the token that starts with a character. -/
def readToken? (lexer : Lexer) (c : Char) (cs : List Char) : Option Lexer :=
  let cursor := lexer.cursor
  let isAlone := startsGap cs
  if cursor.column = 0 ∧ c = '%' then do
    let lexer ← lexer.endBlocks?
    let (token, cursor) ← directive? cursor.skip
    return { lexer.push token with cursor }
  else if cursor.isAtMarker Cursor.startMarker then
    lexer.endBlocks?.map fun lexer ↦ lexer.take 3 .documentStart
  else if cursor.isAtMarker Cursor.endMarker then
    lexer.endBlocks?.map fun lexer ↦ lexer.take 3 .documentEnd
  else if c = '[' ∨ c = '\x7b' then do
    let lexer ← lexer.noteKey?
    return { lexer.take 1 (if c = '[' then .flowSequence else .flowMapping) with
      possible := none
      enclosing := lexer.possible :: lexer.enclosing
      keyAllowed := true }
  else if c = ']' ∨ c = '\x7d' then do
    let lexer ← lexer.dropKey?
    return { lexer.take 1 (if c = ']' then .flowSequenceEnd else .flowMappingEnd) with
      possible := lexer.enclosing.head?.getD lexer.possible
      enclosing := lexer.enclosing.tail
      keyAllowed := false }
  else if c = ',' then
    lexer.dropKey?.map fun lexer ↦ { lexer.take 1 .flowEntry with keyAllowed := true }
  else if c = '-' && isAlone then lexer.readEntry? .blockSequence .blockEntry true
  else if c = '?' && (lexer.inFlow || isAlone) then
    lexer.readEntry? .blockMapping .key (!lexer.inFlow)
  else if c = ':' && (lexer.inFlow || isAlone) then lexer.readValue?
  else if c = '*' then
    lexer.readPart? ((anchorName? cursor.skip).map fun (name, rest) ↦ (.alias name, rest)) false
  else if c = '&' then
    lexer.readPart? ((anchorName? cursor.skip).map fun (name, rest) ↦ (.anchor name, rest)) false
  else if c = '!' then lexer.readPart? (tag? lexer.inFlow cursor) false
  else if c = '|' && !lexer.inFlow then lexer.block? true
  else if c = '>' && !lexer.inFlow then lexer.block? false
  else if c = '\'' ∨ c = '"' then lexer.quoted? c
  else if startsPlain lexer.inFlow c cs then lexer.plain?
  else none

/-- The tokens at the end of a text. -/
def finish? (lexer : Lexer) : Option Lexer :=
  lexer.endBlocks?.map fun lexer ↦ lexer.push .streamEnd

/-- Reads tokens up to the end or to a fault. -/
def readFrom : Nat → Lexer → Array Token
  | 0, lexer => lexer.tokens
  | fuel + 1, lexer =>
    let lexer := skipGaps (lexer.cursor.chars.length + 1) lexer
    match lexer.dropAllStale? with
    | none => lexer.tokens
    | some lexer =>
      let lexer := closeBlocks (lexer.cursor.column : Int) lexer.outer lexer
      match lexer.cursor.chars with
      | [] => (lexer.finish?.getD lexer).tokens
      | c :: cs =>
        match lexer.readToken? c cs with
        | none => lexer.tokens
        | some lexer => readFrom fuel lexer

end Lexer

/-- The tokens of a text. They end with `streamEnd` unless the text is faulty. -/
def Token.ofChars (cs : List Char) : Array Token :=
  if cs.all isAllowed then Lexer.readFrom (cs.length + 1) { cursor := { chars := cs } } else #[]

end OverlayGateway.Yaml
