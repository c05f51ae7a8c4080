import OverlayGateway.Decimal.Unsigned
import OverlayGateway.Log
import OverlayGateway.Text.Basic
import OverlayGateway.Text.Letter
/-!
Which events are shown. A filter is a list of directives, each of which sets how much is shown of
the parts of the program whose names start in some way, or of the events that have some field; of
the directives that fit an event the most particular one decides, and without one the event is not
shown.
-/

set_option autoImplicit false
set_option relaxedAutoImplicit false

namespace OverlayGateway.Log

/-- How much is shown: nothing, errors, and so on up to everything. -/
inductive Verbosity where
  | off
  | errors
  | warnings
  | information
  | debugging
  | everything
  deriving DecidableEq, Repr

namespace Verbosity

/-- The place in the order from nothing to everything. -/
def rank : Verbosity → Nat
  | .off => 0
  | .errors => 1
  | .warnings => 2
  | .information => 3
  | .debugging => 4
  | .everything => 5

/-- All of them by rank. -/
def all : List Verbosity := [.off, .errors, .warnings, .information, .debugging, .everything]

/-- The word for a verbosity. -/
def word : Verbosity → String
  | .off => "off"
  | .errors => "error"
  | .warnings => "warn"
  | .information => "info"
  | .debugging => "debug"
  | .everything => "trace"

/-- The verbosity that a word or a rank stands for. -/
def parse? (s : String) : Option Verbosity :=
  match Decimal.read? UInt64.size s with
  | some rank => all[rank]?
  | none => all.find? fun verbosity ↦ verbosity.word = Text.lower s

/-- Whether events of a level are shown. -/
def shows (verbosity : Verbosity) : Level → Bool
  | .error => 1 ≤ verbosity.rank
  | .warn => 2 ≤ verbosity.rank
  | .info => 3 ≤ verbosity.rank

end Verbosity

/-- How much is shown of some events. -/
structure Directive where
  /-- What the name of the part of the program starts with. -/
  scope : String := ""
  /-- A field that the events have. -/
  field : Option String := none
  /-- Whether the events that happen within some span are meant. No event does. -/
  isWithinSpan : Bool := false
  verbosity : Verbosity
  deriving DecidableEq, Repr

namespace Directive

/-- Whether a directive can start with a character, unless it starts with a bracket. -/
def isFirstChar (c : Char) : Bool := Text.isLetterOrDigit c || c = '_' || c = ':' || c = '-'

/-- How many bytes some characters take. -/
def width (cs : List Char) : Nat := (String.ofList cs).utf8ByteSize

/-- The bytes of a text from one place up to another one, as a text. -/
def cut? (s : String) (start stop : Nat) : Option String :=
  String.fromUTF8? (s.toUTF8.extract start stop)

/-- The verbosity that stands at a place and behind it. Where none is named everything is shown. -/
def verbosityFrom? (s : String) (start : Nat) : Option Verbosity := do
  let word ← cut? s start s.utf8ByteSize
  if word = "" then some .everything else Verbosity.parse? word

/-- Takes what follows a closing bracket: nothing, or a verbosity. -/
def close? (s : String) (directive : Directive) (place : Nat) : List Char → Option Directive
  | [] => some directive
  | '=' :: _ => (verbosityFrom? s (place + 1)).map ({ directive with verbosity := · })
  | _ => none

/-- Takes what stands between braces: the name of a field, or one with a value, which only spans are
judged by. -/
def withField? (directive : Directive) (written : String) : Option Directive :=
  if written = "" then none
  else
    match Text.cutAt '=' written.toList with
    | some _ => some { directive with isWithinSpan := true }
    | none => some { directive with field := some written }

/-- Takes what follows an opening bracket: the name of a span, a field in braces, or both. -/
def bracket? (s : String) (directive : Directive) (place : Nat) (cs : List Char) :
    Option Directive := do
  let name := cs.takeWhile fun c ↦ c ≠ ']' && c ≠ '\x7b'
  let place' := place + width name
  match cs.drop name.length with
  | ']' :: rest => close? s { directive with isWithinSpan := true } (place' + 1) rest
  | '\x7b' :: rest =>
    let inside := rest.takeWhile (· ≠ '\x7d')
    match rest.drop inside.length with
    | '\x7d' :: ']' :: rest =>
      let stop := place' + 1 + width inside
      let directive ← withField? directive (← cut? s (place' + 1) stop)
      close? s { directive with isWithinSpan := directive.isWithinSpan || name ≠ [] } (stop + 2) rest
    | _ => none
  | _ => none

/-- A verbosity for everything, a name of which everything is shown, or a name, a bracket and a
verbosity, each of which may be left out. A directive is taken apart without the blanks around it,
but its parts are cut at these places out of the text that still has them. -/
def parse? (s : String) : Option Directive :=
  match Text.trimChars s.toList with
  | [] => none
  | '[' :: rest => bracket? s { verbosity := .everything } 1 rest
  | c :: cs => do
    if !isFirstChar c then none
    let name := (c :: cs).takeWhile fun c ↦ c ≠ '=' && c ≠ '['
    match (c :: cs).drop name.length with
    | [] =>
      let written ← cut? s 0 s.utf8ByteSize
      match Verbosity.parse? written with
      | some verbosity => return { verbosity }
      | none => return { scope := written, verbosity := .everything }
    | '=' :: _ =>
      return { scope := ← cut? s 0 (width name), verbosity := ← verbosityFrom? s (width name + 1) }
    | _ :: rest =>
      bracket? s { scope := ← cut? s 0 (width name), verbosity := .everything } (width name + 1) rest

/-- Whether an event is one of those that a directive is about. -/
def covers (directive : Directive) (event : Event) : Bool :=
  !directive.isWithinSpan && directive.scope.toList.isPrefixOf event.scope.toList &&
    directive.field.all (("message" :: event.fields.map Prod.fst).contains ·)

/-- Whether one directive for an event is no more particular than another one: it has a shorter
name, or the same one and no field, or one that comes first. -/
def isUpTo (a b : Directive) : Bool :=
  a.scope.length < b.scope.length ||
    a.scope.length = b.scope.length &&
      match a.field, b.field with
      | none, _ => true
      | some _, none => false
      | some a, some b => a ≤ b

end Directive

abbrev Filter := List Directive

namespace Filter

/-- The directives of a text with commas between them; without one, errors are shown. -/
def parse? (s : String) : Option Filter :=
  match (Text.split ',' s).filter (· ≠ "") with
  | [] => some [{ verbosity := .errors }]
  | directives => directives.mapM Directive.parse?

/-- What is shown unless something else is asked for: everything of the program, down to what only
helps to find faults, and of its surroundings the common events. -/
def standard : Filter :=
  { verbosity := .information } ::
    ["netmaker_proxy", "netmaker_common"].map fun scope ↦ { scope, verbosity := .debugging }

/-- The filter that is asked for, if it is one. -/
def ofSetting (setting : Option String) : Filter := (setting.bind parse?).getD standard

/-- The more particular one of two directives, the second one if they are alike in that. -/
def prefer (best : Option Directive) (directive : Directive) : Option Directive :=
  match best with
  | none => some directive
  | some other => if other.isUpTo directive then some directive else some other

/-- The directive that decides about an event; of two that are as particular the later one
counts. -/
def deciding? (filter : Filter) (event : Event) : Option Directive :=
  (filter.filter (·.covers event)).foldl prefer none

/-- Whether an event is shown. -/
def admits (filter : Filter) (event : Event) : Bool :=
  (filter.deciding? event).any fun directive ↦ directive.verbosity.shows event.level

end Filter

end OverlayGateway.Log
