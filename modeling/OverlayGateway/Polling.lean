import OverlayGateway.Backoff
import OverlayGateway.Log
/-!
Polling with backoff on a virtual clock. An operation is tried until it yields a value, the
attempts run out or a cancellation is seen. The token is looked at before every attempt and
throughout every wait, so no attempt starts after it has fired; a result that is there counts even
if the token fired meanwhile.
-/

set_option autoImplicit false
set_option relaxedAutoImplicit false

namespace OverlayGateway

/-- What a clock does with timers that lie too far ahead for it. -/
structure Horizon where
  /-- A timer that is due at this time or later is set by `span` instead. -/
  limit : Nat
  span : Nat
  /-- No timer fires later than this. -/
  last : Nat

/-- A clock whose timers fire at multiples of its resolution, in nanoseconds. -/
structure Clock where
  resolution : Nat
  pos : 0 < resolution
  horizon : Option Horizon := none

namespace Clock

/-- The clock whose timers fire when they are due. -/
def ideal : Clock := { resolution := 1, pos := by decide }

/-- Thirty years of 365 days. -/
def thirtyYears : Nat := 30 * 365 * 86400 * nanosPerSecond

/-- The clock whose timers fire at whole milliseconds. It counts seconds in 63 bits and milliseconds
in 64, of which the two highest numbers stand for no time. -/
def milliseconds : Clock :=
  { resolution := nanosPerMilli
    pos := by decide
    horizon := some
      { limit := UInt64.size / 2 * nanosPerSecond
        span := thirtyYears
        last := (UInt64.size - 3) * nanosPerMilli } }

/-- When a timer that is due at `deadline` fires. -/
def fires (clock : Clock) (deadline : Nat) : Nat :=
  (deadline + clock.resolution - 1) / clock.resolution * clock.resolution

/-- When a timer fires that is set at `now` for a time later by `delay`. -/
def firesAfter (clock : Clock) (now delay : Nat) : Nat :=
  match clock.horizon with
  | none => clock.fires (now + delay)
  | some horizon =>
    let delay := if horizon.limit ≤ now + delay then horizon.span else delay
    max now (min horizon.last (clock.fires (now + delay)))

@[simp] theorem firesAfter_ideal (now delay : Nat) : ideal.firesAfter now delay = now + delay := by
  simp [firesAfter, fires, ideal]

end Clock

namespace Polling

/-- What one attempt does: the value it yields, how long it takes, whether the token fires while it
runs, and what it logs. -/
structure Attempt (α : Type) where
  value : Option α := none
  duration : Nat := 0
  cancels : Bool := false
  log : List Log.Event := []

inductive Outcome (α : Type) where
  | ready (value : α)
  | exhausted
  | cancelled
  deriving DecidableEq, Repr

/-- A finished polling: its outcome, the attempts with the times at which they started, the time at
which it ended, and its events. -/
structure Run (α : Type) where
  outcome : Outcome α
  attempts : List (Nat × Nat)
  endedAt : Nat
  log : List Log.Event

/-- A run with an attempt in front. -/
def Run.after {α : Type} (run : Run α) (attempt start : Nat) (log : List Log.Event) : Run α :=
  { run with attempts := (attempt, start) :: run.attempts, log := log ++ run.log }

def Outcome.value? {α : Type} : Outcome α → Option α
  | .ready value => some value
  | .exhausted | .cancelled => none

/-- The part of the program that polls. -/
def scope : String := "netmaker_common::retry"

def exhaustedEvent (backoff : Backoff) (name : String) : Log.Event :=
  { Log.error "Operation did not succeed after all attempts"
      [("operation", .text name), ("max_attempts", .count backoff.maxAttempts)] with scope }

def waitingEvent (backoff : Backoff) (name : String) (attempt : Nat) : Log.Event :=
  { Log.info "Waiting before retry"
      [("operation", .text name), ("delay_secs", .span (backoff.delayAfter attempt)),
        ("next_attempt", .count (attempt + 1))] with scope }

def cancelledEvent (name : String) (attempt : Nat) : Log.Event :=
  { Log.info "Polling cancelled" [("operation", .text name), ("attempt", .count attempt)]
    with scope }

/-- Whether the token has fired at some time. -/
def hasFired (firedAt : Option Nat) (now : Nat) : Bool :=
  match firedAt with
  | some time => time ≤ now
  | none => false

/-- The earlier of two times at which the token may fire. -/
def earlier (firedAt : Option Nat) (time : Nat) : Nat :=
  match firedAt with
  | some other => min other time
  | none => time

/-- Makes the last `remaining` attempts, the next of which is due now. -/
def runFrom {α : Type} (clock : Clock) (backoff : Backoff) (name : String)
    (script : Nat → Attempt α) : Nat → Nat → Nat → Option Nat → Run α
  | 0, _, now, _ => ⟨.exhausted, [], now, [exhaustedEvent backoff name]⟩
  | remaining + 1, attempt, now, firedAt =>
    if hasFired firedAt now then ⟨.cancelled, [], now, []⟩
    else
      let tried := script attempt
      let ended := now + tried.duration
      match tried.value with
      | some value => ⟨.ready value, [(attempt, now)], ended, tried.log⟩
      | none =>
        let firedAt := if tried.cancels then some (earlier firedAt ended) else firedAt
        if remaining = 0 then
          ⟨.exhausted, [(attempt, now)], ended, tried.log ++ [exhaustedEvent backoff name]⟩
        else
          let due := clock.firesAfter ended (backoff.delayAfter attempt).nanos
          let waiting := tried.log ++ [waitingEvent backoff name attempt]
          match firedAt with
          | some time =>
            if time < due ∨ time ≤ ended then
              ⟨.cancelled, [(attempt, now)], max ended time,
                waiting ++ [cancelledEvent name attempt]⟩
            else
              (runFrom clock backoff name script remaining (attempt + 1) due firedAt).after
                attempt now waiting
          | none =>
            (runFrom clock backoff name script remaining (attempt + 1) due firedAt).after
              attempt now waiting

/-- Polls an operation from time 0 on, with a token that fires at `firedAt`. -/
def run {α : Type} (clock : Clock) (backoff : Backoff) (name : String) (script : Nat → Attempt α)
    (firedAt : Option Nat) : Run α :=
  runFrom clock backoff name script backoff.maxAttempts 1 0 firedAt

end Polling

end OverlayGateway
