import OverlayGateway.ClusterAccess.Trust
import OverlayGateway.Overlay
import OverlayGateway.Periodic
/-!
A run of the gateway on a virtual clock. It starts with the access to the API server, without which
it fails at once; then mappings are merged in the background while the overlay address is looked for
and the two listeners are bound. Both servers go on until the token fires, which either server makes
it do when it breaks down, and get a limited time to finish. A run that returns says when it did and
when its merging ended.
-/

set_option autoImplicit false
set_option relaxedAutoImplicit false

namespace OverlayGateway.Lifecycle

/-- One of the two servers. -/
inductive Role where
  | proxy
  | management
  deriving DecidableEq, Repr

def Role.name : Role → String
  | .proxy => "proxy"
  | .management => "api"

/-- How long requests may still take when the token has fired, in nanoseconds. -/
def grace : Nat := 10 * nanosPerSecond

/-- The end of a server that ends by itself. -/
structure Breakdown where
  time : Nat
  cause : String
  deriving DecidableEq, Repr

/-- What a run meets on its way. Of the requests that are served it holds how long they take and not
what they do: a merge that a request asked for, which can outlive the grace with its request, is no
part of it. -/
structure World where
  clock : Clock := .milliseconds
  /-- The addresses of the host, as each attempt finds them. -/
  listing : Nat → Overlay.Listing
  /-- What the remote source of mappings answers each time. -/
  fetch : Nat → Periodic.Fetch
  /-- What comes of binding a socket when the run already holds some. -/
  bind : List Ip.Socket → Ip.Socket → Except String Ip.Socket
  breakdown : Role → Option Breakdown := fun _ ↦ none
  /-- How long the requests that are being served take when the token has fired. -/
  pending : Role → Nat := fun _ ↦ 0
  /-- When the token is made to fire, if ever. -/
  firedAt : Option Nat
  turns : List Periodic.Turn := []

/-- A listing of the addresses of the host. -/
def World.enumeration (world : World) (number : Nat) : Overlay.Enumeration :=
  { listing := world.listing number }

/-- Merging in the background: what it did while the run could see it, and when it ended; a merging
that nothing stops does not end. -/
structure Merging where
  run : Periodic.Run
  endedAt : Option Nat

/-- A run that returned. -/
structure Run where
  result : Except Failure Unit
  returnedAt : Nat
  /-- The merging, if the run got as far as to start it. -/
  merging : Option Merging := none
  /-- When both listeners were bound, if they were. -/
  listeningAt : Option Nat := none
  log : List Log.Event

/-- Merging with a token that fires at some time, seen up to `now` if it never does. -/
def mergingUntil (settings : SyncSettings) (world : World) (firedAt : Option Nat) (now : Nat) :
    Merging :=
  match firedAt with
  | some time =>
    let run := Periodic.run settings world.fetch time world.turns .empty
    ⟨run, some run.endedAt⟩
  | none =>
    let run := Periodic.run settings world.fetch now world.turns .empty
    if settings.isConfigured then ⟨{ run with log := run.log.dropLast }, none⟩
    else ⟨run, some run.endedAt⟩

def Merging.log (merging : Merging) : List Log.Event :=
  Log.within "netmaker_proxy::sync" merging.run.log

/-- The part of the program that wires a run. -/
def scope : String := "netmaker_proxy::runner"

/-- The events at the start of a run. -/
def startLog (settings : Settings) : List Log.Event :=
  Log.within scope
    (Log.info "Starting Netmaker Kubernetes proxy"
        [("mode", .text settings.policy.mode.name),
          ("impersonate_user", .text settings.policy.fallback.user),
          ("impersonate_groups", .text (Text.quotedList settings.policy.fallback.groups)),
          ("skip_tls_verify", .flag settings.skipTlsVerify)] ::
      if settings.skipTlsVerify then
        [Log.warn "TLS verification of the API server is disabled" []]
      else [])

/-- The search for the overlay address, which is not needed when both listeners have one. -/
def discover (settings : Settings) (world : World) : Overlay.Search :=
  if settings.listen.isPinned then ⟨none, 0, 0, []⟩
  else
    let search := Overlay.locate world.clock settings.interface.backoff settings.interface.name
      world.enumeration world.firedAt
    let missed := if search.found.isNone && !Polling.hasFired world.firedAt search.endedAt then
      Log.within scope
        [Log.warn "Overlay interface not found, binding to all interfaces"
          [("interface", .text settings.interface.name)]]
      else []
    { search with log := Log.within "netmaker_proxy::interface" search.log ++ missed }

/-- Binds a socket, or says why it cannot be bound. -/
def bind (world : World) (held : List Ip.Socket) (socket : Ip.Socket) : Except Failure Ip.Socket :=
  (world.bind held socket).mapError (.bind socket)

/-- Binds both listeners, that of the proxy first. -/
def bindBoth (settings : ListenSettings) (world : World) (overlay : Option Ip.V4) :
    Except Failure (Ip.Socket × Ip.Socket) := do
  let proxy ← bind world []
    (Listener.socket settings.proxyAddress overlay settings.proxyPort)
  let management ← bind world [proxy]
    (Listener.socket settings.managementAddress overlay settings.managementPort)
  return (proxy, management)

/-- The earliest of some times. -/
def earliest? (times : List Nat) : Option Nat := times.min?

/-- When both servers are told to stop: when the token fires, or when one of them breaks down. -/
def stopAt? (world : World) (start : Nat) : Option Nat :=
  let broken := [Role.proxy, Role.management].filterMap fun role ↦
    (world.breakdown role).map fun breakdown ↦ max start breakdown.time
  (earliest? (world.firedAt.toList ++ broken)).map (max start)

/-- A server that has ended. -/
structure Ended where
  result : Except Failure Unit
  time : Nat
  log : List Log.Event

def failedEvent (failure : Failure) : Log.Event :=
  Log.error "Server failed, shutting down" [("error", .text failure.message)]

/-- The end of a server that is told to stop at some time. It breaks down, or finishes its requests
as far as the grace allows. -/
def endOf (world : World) (start stop : Nat) (role : Role) : Ended :=
  let drained := stop + min grace (world.pending role)
  let name : String × Log.Field := ("server", .text role.name)
  let stopping := Log.info "Shutting down server"
    [name, ("grace_secs", .count (grace / nanosPerSecond))]
  let finish :=
    if grace < world.pending role then
      Log.warn "Graceful shutdown timed out, abandoning open connections" [name]
    else Log.info "Server stopped" [name]
  let finished : Ended :=
    ⟨.ok (), drained, Log.within "netmaker_proxy::server" [stopping, finish]⟩
  match world.breakdown role with
  | none => finished
  | some breakdown =>
    if max start breakdown.time ≤ drained then
      let failure := Failure.internal (role.name ++ " server failed: " ++ breakdown.cause)
      ⟨.error failure, max start breakdown.time, Log.within scope [failedEvent failure]⟩
    else finished

/-- The first of two failures, if there is one. -/
def bothSucceed (first second : Except Failure Unit) : Except Failure Unit := do
  first
  second

def listeningEvent (role : Role) (socket : Ip.Socket) : Log.Event :=
  Log.info "Server listening" [("server", .text role.name), ("addr", .text socket.text)]

/-- Serves from `start` on, with merging in the background, and returns when both servers and the
merging have ended; nothing if that never happens. -/
def serve? (settings : Settings) (world : World) (start : Nat) (sockets : Ip.Socket × Ip.Socket)
    (log : List Log.Event) : Option Run := do
  let stop ← stopAt? world start
  let proxy := endOf world start stop .proxy
  let management := endOf world start stop .management
  let merging := mergingUntil settings.sync world (some stop) stop
  let result := bothSucceed proxy.result management.result
  let listening := Log.within "netmaker_proxy::server"
    [listeningEvent .proxy sockets.1, listeningEvent .management sockets.2]
  let complete := match result with
    | .ok () => Log.within scope [Log.info "Shutdown complete" []]
    | .error _ => []
  return {
    result
    returnedAt := max (max proxy.time management.time) merging.run.endedAt
    merging := some merging
    listeningAt := some start
    log := log ++ merging.log ++ listening ++ proxy.log ++ management.log ++ complete }

/-- Continues a run that has its access to the API server. -/
def proceed? (settings : Settings) (world : World) (log : List Log.Event) : Option Run :=
  let search := discover settings world
  let log := log ++ search.log
  if Polling.hasFired world.firedAt search.endedAt then
    let merging := mergingUntil settings.sync world world.firedAt search.endedAt
    let cancelled := Log.within scope
      [Log.info "Shutdown requested before listeners were bound" []]
    some
      { result := .ok ()
        returnedAt := max search.endedAt merging.run.endedAt
        merging := some merging
        log := log ++ merging.log ++ cancelled }
  else
    match bindBoth settings.listen world search.found with
    | .error failure =>
      let merging := mergingUntil settings.sync world world.firedAt search.endedAt
      some
        { result := .error failure
          returnedAt := search.endedAt
          merging := some merging
          log := log ++ merging.log }
    | .ok sockets => serve? settings world search.endedAt sockets log

/-- A run with the access to the API server that was loaded for it, if it was; nothing if the run
never returns. -/
def run? (settings : Settings) (loaded : Except Failure (ClusterAccess × List Log.Event))
    (world : World) : Option Run :=
  let log := startLog settings
  match loaded with
  | .error failure => some { result := .error failure, returnedAt := 0, log }
  | .ok (access, loadLog) =>
    let log := log ++ Log.within "netmaker_proxy::credentials" loadLog
    match access.checkTrust settings.skipTlsVerify with
    | .error failure => some { result := .error failure, returnedAt := 0, log }
    | .ok () => proceed? settings world log

end OverlayGateway.Lifecycle
