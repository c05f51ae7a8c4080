import OverlayGateway.Yaml.Token
/-!
Scalars. The lines of a scalar are folded: a single break between two lines is a space, and of
several all but the first one are kept. Only the lines of a literal block keep their breaks, and
only a scalar between double quotes has escapes.
-/

set_option autoImplicit false
set_option relaxedAutoImplicit false

namespace OverlayGateway.Yaml

/-- Blanks and breaks between two parts of a scalar. -/
structure Gap where
  /-- The blanks, as long as no line has ended. -/
  blanks : List Char := []
  isBroken : Bool := false
  /-- The first break, if it is not an escaped one. -/
  first : List Char := []
  more : List Char := []

namespace Gap

/-- What a gap stands for. -/
def text (gap : Gap) : List Char :=
  if !gap.isBroken then gap.blanks
  else if gap.first = ['\n'] then (if gap.more = [] then [' '] else gap.more)
  else gap.first ++ gap.more

/-- Reads a gap. Behind a break no tab may stand in the first `indent` columns. -/
def read? (indent : Nat) : Nat → Gap → Cursor → Option (Gap × Cursor)
  | 0, gap, cursor => some (gap, cursor)
  | fuel + 1, gap, cursor =>
    match cursor.chars with
    | [] => some (gap, cursor)
    | c :: _ =>
      if isSpaceOrTab c then
        if gap.isBroken then
          if cursor.column < indent ∧ c = '\t' then none else read? indent fuel gap cursor.skip
        else read? indent fuel { gap with blanks := gap.blanks ++ [c] } cursor.skip
      else
        match cursor.lineBreak? with
        | none => some (gap, cursor)
        | some (c, cursor) =>
          if gap.isBroken then read? indent fuel { gap with more := gap.more ++ [c] } cursor
          else read? indent fuel { isBroken := true, first := [c] } cursor

end Gap

namespace Plain

/-- Characters that end a scalar within brackets. -/
def endsInFlow (c : Char) : Bool := ",[]\x7b\x7d".toList.contains c

/-- The characters up to a gap or to a sign that ends a scalar; a colon must not stand directly in
front of some signs. -/
def chunk? (inFlow : Bool) : List Char → Option (List Char)
  | [] => some []
  | c :: cs =>
    if isGap c then some []
    else if inFlow && c = ':' && cs.head?.any fun c ↦ endsInFlow c || c = '?' then none
    else if (c = ':' && startsGap cs) || (inFlow && endsInFlow c) then some []
    else (chunk? inFlow cs).map (c :: ·)

/-- Reads a scalar without quotes, the lines of which stand right of the block around it. What is
read last is its text, and whether a line has ended behind it. -/
def readFrom? (inFlow : Bool) (indent : Nat) :
    Nat → Gap → List Char → Cursor → Option (List Char × Bool × Cursor)
  | 0, _, _, _ => none
  | fuel + 1, gap, text, cursor =>
    if cursor.isAtDocument || cursor.chars.head? = some '#' then some (text, gap.isBroken, cursor)
    else do
      let chunk ← chunk? inFlow cursor.chars
      let (gap, text) := if chunk = [] then (gap, text) else (({} : Gap), text ++ gap.text ++ chunk)
      let cursor := cursor.advance chunk.length
      if !cursor.chars.head?.any isGap then return (text, gap.isBroken, cursor)
      let (gap, cursor) ← gap.read? indent cursor.chars.length cursor
      if !inFlow ∧ cursor.column < indent then return (text, gap.isBroken, cursor)
      readFrom? inFlow indent fuel gap text cursor

/-- A scalar without quotes in a block that starts in the column in front of `indent`. -/
def read? (inFlow : Bool) (indent : Nat) (cursor : Cursor) : Option (List Char × Bool × Cursor) :=
  readFrom? inFlow indent (cursor.chars.length + 1) {} [] cursor

end Plain

namespace Quoted

/-- The value of digits of base 16. -/
def hexNumber? (cs : List Char) : Option Nat :=
  cs.foldlM (fun n c ↦ (Text.hexValue? c).map fun digit ↦ n * 16 + digit) 0

/-- The character that a code point in a number of digits stands for, and how long it is. -/
def codePoint? (count : Nat) (cs : List Char) : Option (Char × Nat) := do
  if cs.length < count then none
  let n ← hexNumber? (cs.take count)
  if n.isValidChar then return (Char.ofNat n, count + 1) else none

/-- The characters that single letters stand for behind a backslash. -/
def letters : List (Char × Nat) :=
  [('0', 0), ('a', 0x07), ('b', 0x08), ('t', 0x09), ('\t', 0x09), ('n', 0x0A), ('v', 0x0B),
    ('f', 0x0C), ('r', 0x0D), ('e', 0x1B), (' ', 0x20), ('"', 0x22), ('/', 0x2F), ('\\', 0x5C),
    ('N', 0x85), ('_', 0xA0), ('L', 0x2028), ('P', 0x2029)]

/-- What stands behind a backslash, and how long it is. -/
def escape? (cs : List Char) : Option (Char × Nat) :=
  match cs with
  | [] => none
  | 'x' :: rest => codePoint? 2 rest
  | 'u' :: rest => codePoint? 4 rest
  | 'U' :: rest => codePoint? 8 rest
  | c :: _ => (letters.lookup c).map fun n ↦ (Char.ofNat n, 1)

/-- The characters up to a gap or the quote at the end, and whether a break behind them is escaped.
Between single quotes, two of them stand for one. -/
def chunk? (quote : Char) : Nat → Cursor → Option (List Char × Bool × Cursor)
  | 0, _ => none
  | fuel + 1, cursor =>
    let behind (c : Char) (count : Nat) :=
      (chunk? quote fuel (cursor.advance count)).map fun (text, rest) ↦ (c :: text, rest)
    match cursor.chars with
    | [] => some ([], false, cursor)
    | c :: cs =>
      if isGap c then some ([], false, cursor)
      else if c = '\'' ∧ quote = c ∧ cs.head? = some c then behind c 2
      else if c = quote then some ([], false, cursor)
      else if c = '\\' ∧ quote = '"' then
        if cs.head?.any isBreak then some ([], true, cursor.skip.skipBreak)
        else (escape? cs).bind fun (c, count) ↦ behind c (count + 1)
      else behind c 1

/-- Reads the scalar up to the quote at its end. -/
def readFrom? (quote : Char) : Nat → List Char → Cursor → Option (List Char × Cursor)
  | 0, _, _ => none
  | fuel + 1, text, cursor =>
    if cursor.isAtDocument || cursor.chars = [] then none
    else do
      let (chunk, isEscaped, cursor) ← chunk? quote (cursor.chars.length + 1) cursor
      if cursor.chars.head? = some quote then return (text ++ chunk, cursor.skip)
      let (gap, cursor) ← Gap.read? 0 cursor.chars.length { isBroken := isEscaped } cursor
      readFrom? quote fuel (text ++ chunk ++ gap.text) cursor

/-- A scalar between two quotes, the first of which is here. -/
def read? (quote : Char) (cursor : Cursor) : Option (List Char × Cursor) :=
  readFrom? quote (cursor.chars.length + 1) [] cursor.skip

end Quoted

namespace Block

/-- What becomes of the breaks at the end of a block. -/
inductive Chomping where
  | strip
  | clip
  | keep
  deriving DecidableEq, Repr

def chomping? : Char → Option Chomping
  | '-' => some .strip
  | '+' => some .keep
  | _ => none

/-- The digit for the indentation, which is not zero. -/
def increment? (c : Char) : Option Nat :=
  if c.isDigit then some (c.toNat - '0'.toNat) else none

/-- The header of a block: how it ends and how far it is indented, in either order. -/
def header? (cursor : Cursor) : Option (Chomping × Option Nat × Cursor) :=
  let checked := fun (chomping : Chomping) (increment : Option Nat) (cursor : Cursor) ↦
    if increment = some 0 then none else some (chomping, increment, cursor)
  let first := cursor.chars.head?
  let second := cursor.skip.chars.head?
  match first.bind chomping?, first.bind increment? with
  | some chomping, _ =>
    match second.bind increment? with
    | some increment => checked chomping (some increment) (cursor.advance 2)
    | none => checked chomping none cursor.skip
  | none, some increment =>
    match second.bind chomping? with
    | some chomping => checked chomping (some increment) (cursor.advance 2)
    | none => checked .clip (some increment) cursor.skip
  | none, none => checked .clip none cursor

/-- Reads empty lines and the indentation behind them; as long as `indent` is nothing, indentation
has no end. The deepest column is left as well. -/
def breaksFrom? (indent : Option Nat) :
    Nat → Nat → List Char → Cursor → Option (List Char × Nat × Cursor)
  | 0, deepest, breaks, cursor => some (breaks, deepest, cursor)
  | fuel + 1, deepest, breaks, cursor =>
    let spaces := (cursor.chars.takeWhile (· = ' ')).length
    let cursor := cursor.advance ((indent.map fun n ↦ min spaces (n - cursor.column)).getD spaces)
    let deepest := max deepest cursor.column
    if indent.all (cursor.column < ·) && cursor.chars.head? = some '\t' then none
    else
      match cursor.lineBreak? with
      | some (c, cursor) => breaksFrom? indent fuel deepest (breaks ++ [c]) cursor
      | none => some (breaks, deepest, cursor)

def breaks? (indent : Option Nat) (cursor : Cursor) : Option (List Char × Nat × Cursor) :=
  breaksFrom? indent (cursor.chars.length + 1) 0 [] cursor

/-- What has been read of a block: its text, the break behind the last line and those of the empty
lines behind it, and whether that line started with a blank. -/
structure State where
  text : List Char := []
  last : List Char := []
  empty : List Char
  isIndented : Bool := false

/-- Reads the lines that start in the column of a block. -/
def linesFrom? (isLiteral : Bool) (indent : Nat) :
    Nat → State → Cursor → Option (State × Cursor)
  | 0, _, _ => none
  | fuel + 1, state, cursor =>
    if cursor.column ≠ indent ∨ cursor.chars = [] then some (state, cursor)
    else do
      let isIndented := cursor.chars.head?.any isSpaceOrTab
      let isFolded :=
        !isLiteral && state.last = ['\n'] && !state.isIndented && !isIndented
      let joint :=
        if isFolded then (if state.empty = [] then [' '] else [])
        else state.last
      let line := cursor.chars.takeWhile fun c ↦ !isBreak c
      let cursor := cursor.advance line.length
      let last := (cursor.lineBreak?.map Prod.fst).toList
      let (empty, _, cursor) ← breaks? (some indent) cursor.skipBreak
      linesFrom? isLiteral indent fuel
        { text := state.text ++ joint ++ state.empty ++ line, last, empty, isIndented } cursor

/-- Reads a block behind its sign, within a block that starts in the column in front of `least`. -/
def read? (isLiteral : Bool) (least : Nat) (cursor : Cursor) :
    Option (List Char × Cursor) := do
  let (chomping, increment, cursor) ← header? cursor
  let cursor ← cursor.endLine?
  let stated := increment.map fun n ↦ n + (least - 1)
  let (empty, deepest, cursor) ← breaks? stated cursor
  let indent := stated.getD (max 1 (max deepest least))
  let (state, cursor) ←
    linesFrom? isLiteral indent (cursor.chars.length + 1) { empty } cursor
  let text := match chomping with
    | .strip => state.text
    | .clip => state.text ++ state.last
    | .keep => state.text ++ state.last ++ state.empty
  return (text, cursor)

end Block

end OverlayGateway.Yaml
