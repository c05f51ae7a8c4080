import OverlayGateway.Duration
/-!
Linear backoff. After failed attempt `k` the wait is `k` times the base delay, capped at the
longest delay. The whole wait of a schedule whose attempts all fail has a closed form: the delays
grow along an arithmetic series up to the cap and stay there.
-/

set_option autoImplicit false
set_option relaxedAutoImplicit false

namespace OverlayGateway

/-- A bounded number of attempts and the delays between them. -/
structure Backoff where
  maxAttempts : Nat := 20
  baseDelay : Duration := .ofSeconds 3
  maxDelay : Duration := .ofSeconds 30
  deriving DecidableEq

namespace Backoff

/-- The wait between failed attempt `attempt`, counted from 1, and the next one. -/
def delayAfter (backoff : Backoff) (attempt : Nat) : Duration :=
  min (backoff.baseDelay.times attempt) backoff.maxDelay

/-- The number of delays of a failing schedule that are below the cap or just reach it. -/
def growingDelays (backoff : Backoff) : Nat :=
  min (backoff.maxAttempts - 1) (backoff.maxDelay.nanos / backoff.baseDelay.nanos)

/-- The nanoseconds that a schedule waits when every attempt fails. -/
def totalNanos (backoff : Backoff) : Nat :=
  if backoff.baseDelay.nanos = 0 then 0
  else
    backoff.baseDelay.nanos * (backoff.growingDelays * (backoff.growingDelays + 1) / 2) +
      (backoff.maxAttempts - 1 - backoff.growingDelays) * backoff.maxDelay.nanos

/-- The whole wait when every attempt fails, if that is a duration. -/
def totalWait? (backoff : Backoff) : Option Duration := Duration.ofNanos? backoff.totalNanos

theorem nanos_delayAfter (backoff : Backoff) (attempt : Nat) :
    (backoff.delayAfter attempt).nanos =
      min (backoff.baseDelay.nanos * attempt) backoff.maxDelay.nanos := by
  have := backoff.maxDelay.nanos_le_maxNanos
  simp only [delayAfter, Duration.times, Duration.nanos_min, Duration.nanos_saturate]
  omega

end Backoff

end OverlayGateway
