import OverlayGateway.Text.Utf8
/-!
Texts with the codes by which terminals are controlled, and without them. A code starts with an
escape character and ends by rules of its own; of the control characters outside of codes only
blanks remain.
-/

set_option autoImplicit false
set_option relaxedAutoImplicit false

namespace OverlayGateway.Text

/-- What a piece of text is, as far as it stands out on a terminal. -/
inductive Accent where
  /-- The title of a part. -/
  | title
  /-- What is to be typed as it is. -/
  | literal
  /-- The word that announces an error. -/
  | alarm
  /-- What would be right. -/
  | right
  /-- What is wrong. -/
  | wrong
  deriving DecidableEq, Repr

/-- The numbers of the codes that make a text stand out: bold, underlined, and colours. -/
def Accent.codes : Accent → List Nat
  | .title => [1, 4]
  | .literal => [1]
  | .alarm => [1, 31]
  | .right => [32]
  | .wrong => [33]

/-- The code with a number. -/
def code (n : Nat) : String := "\x1b[" ++ Decimal.write n ++ "m"

/-- A text with codes around it. -/
def Accent.mark (accent : Accent) (s : String) : String :=
  String.join (accent.codes.map code) ++ s ++ code 0

/-- What a character stands in. -/
inductive TerminalState where
  | text
  /-- Behind an escape character. -/
  | escape
  /-- In a code that ends with the next letter or digit. -/
  | intermediate
  /-- In a code with parameters, which ends with a letter. -/
  | parameters
  /-- In a string that a terminator ends. -/
  | string
  /-- In a command of the operating system, which the bell ends as well. -/
  | command
  deriving DecidableEq, Repr

namespace TerminalState

def escapeChar : Char := '\x1b'

/-- The byte that ends a string, wherever it stands. -/
def terminator : UInt8 := 0x9C

def isBlank (c : Char) : Bool := [' ', '\t', '\n', '\x0c', '\r'].contains c

def isControl (c : Char) : Bool := c < ' '

/-- The state behind the first character of a code. -/
def afterEscape (c : Char) : TerminalState :=
  if c < '0' then .intermediate
  else if c = '[' then .parameters
  else if c = ']' then .command
  else if ['P', 'X', '^', '_'].contains c then .string
  else .text

/-- The state behind a character other than a control character; DEL and characters outside ASCII
change nothing but strings, which may end within such a character. -/
def next (state : TerminalState) (c : Char) : TerminalState :=
  let isPlain := c < '\x7f'
  match state with
  | .text => .text
  | .escape => if isPlain then afterEscape c else .escape
  | .intermediate => if isPlain ∧ '0' ≤ c then .text else .intermediate
  | .parameters => if isPlain ∧ '@' ≤ c then .text else .parameters
  | .string => if (String.utf8EncodeChar c).contains terminator then .text else .string
  | .command => .command

/-- The state behind a control character, and whether the character remains. A blank ends a code,
but not a string. -/
def afterControl (state : TerminalState) (c : Char) : TerminalState × Bool :=
  if c = escapeChar then (.escape, false)
  else if c = '\x18' ∨ c = '\x1a' then (.text, false)
  else
    match state with
    | .string => (.string, false)
    | .command => (if c = '\x07' then .text else .command, false)
    | state => if isBlank c then (.text, true) else (state, false)

end TerminalState

/-- The characters that remain of a text. -/
def shownFrom (state : TerminalState) : List Char → List Char
  | [] => []
  | c :: cs =>
    if TerminalState.isControl c then
      let (state, isShown) := state.afterControl c
      if isShown then c :: shownFrom state cs else shownFrom state cs
    else if state = .text ∧ c ≠ '\x7f' then c :: shownFrom state cs
    else shownFrom (state.next c) cs

/-- A text without control codes. A code that is not finished takes the rest of the text. -/
def shown (s : String) : String := String.ofList (shownFrom .text s.toList)

end OverlayGateway.Text
