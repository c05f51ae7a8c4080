import OverlayGateway.Failure
import OverlayGateway.Polling
/-!
The address of the overlay interface: the first one of version 4 on the interface of that name that
is neither a loopback address nor the unspecified one. The agent makes the interface in its own
time, so the host's addresses are listed again and again; a listing that fails counts like an empty
one.
-/

set_option autoImplicit false
set_option relaxedAutoImplicit false

namespace OverlayGateway.Overlay

/-- An address that is assigned to an interface. -/
structure Assignment where
  interface : String
  address : Ip.Address
  deriving DecidableEq, Repr

/-- The version 4 address of an assignment to which peers can connect. -/
def usable? (assignment : Assignment) : Option Ip.V4 :=
  match assignment.address with
  | .v4 address => if address.isLoopback || address.isUnspecified then none else some address
  | .v6 _ => none

/-- The first usable address on an interface. -/
def find? (assignments : List Assignment) (interface : String) : Option Ip.V4 :=
  (assignments.filter fun assignment ↦ assignment.interface = interface).findSome? usable?

/-- What one listing of the host's addresses gives. -/
abbrev Listing := Except Failure (List Assignment)

/-- The making of a listing: what it gives, how long it takes, and whether the token fires
meanwhile. -/
structure Enumeration where
  listing : Listing
  duration : Nat := 0
  cancels : Bool := false

/-- The attempt to find the interface in a listing. -/
def attempt (interface : String) (number : Nat) (enumeration : Enumeration) :
    Polling.Attempt Ip.V4 :=
  let tried : Polling.Attempt Ip.V4 :=
    { duration := enumeration.duration, cancels := enumeration.cancels }
  match enumeration.listing with
  | .ok assignments => { tried with value := find? assignments interface }
  | .error failure =>
    { tried with
      log := [Log.warn "Interface enumeration failed"
        [("error", .text failure.message), ("attempt", .count number)]] }

/-- The address that was found, the number of listings, the time taken and the events. -/
structure Search where
  found : Option Ip.V4
  listings : Nat
  endedAt : Nat
  log : List Log.Event

/-- Waits for the interface to have a usable address. -/
def locate (clock : Clock) (backoff : Backoff) (interface : String)
    (enumeration : Nat → Enumeration) (firedAt : Option Nat) : Search :=
  let run := Polling.run clock backoff "overlay interface discovery"
    (fun number ↦ attempt interface number (enumeration number)) firedAt
  let start := Log.info "Waiting for overlay interface"
    [("interface", .text interface), ("max_attempts", .count backoff.maxAttempts)]
  let found := run.outcome.value?
  let finish := match found with
    | some address =>
      [Log.info "Found overlay interface address"
        [("interface", .text interface), ("address", .text address.text)]]
    | none => []
  ⟨found, run.attempts.length, run.endedAt, start :: run.log ++ finish⟩

end OverlayGateway.Overlay
