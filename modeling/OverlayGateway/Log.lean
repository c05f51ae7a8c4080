import OverlayGateway.Decimal.Shortest
import OverlayGateway.Duration
/-!
Log events. An event has a level, a fixed message and named fields; a run of the gateway is judged
by the events it emits in order.
-/

set_option autoImplicit false
set_option relaxedAutoImplicit false

namespace OverlayGateway.Log

inductive Level where
  | error
  | warn
  | info
  deriving DecidableEq, Repr

/-- What a field of an event holds. -/
inductive Field where
  | text (value : String)
  | count (value : Nat)
  | flag (value : Bool)
  /-- A span of time, shown in seconds. -/
  | span (value : Duration)
  deriving DecidableEq

structure Event where
  level : Level
  message : String
  fields : List (String × Field) := []
  /-- The part of the program that emits the event, by which events are filtered. -/
  scope : String := ""
  deriving DecidableEq

/-- A span of time in seconds, as the shortest decimal of its nearest double. -/
def spanText (value : Duration) : String :=
  Decimal.positionalText
    (Float.ofNat value.seconds + Float.ofNat value.subsecond / Float.ofNat nanosPerSecond)

def info (message : String) (fields : List (String × Field)) : Event :=
  { level := .info, message, fields }

def warn (message : String) (fields : List (String × Field)) : Event :=
  { level := .warn, message, fields }

def error (message : String) (fields : List (String × Field)) : Event :=
  { level := .error, message, fields }

/-- The events as those of a part of the program, unless they already belong to one. -/
def within (scope : String) (events : List Event) : List Event :=
  events.map fun event ↦ if event.scope = "" then { event with scope } else event

end OverlayGateway.Log
