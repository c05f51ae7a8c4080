import OverlayGateway.CommandLine
import OverlayGateway.Environment
import OverlayGateway.Http.Uri
import OverlayGateway.Lifecycle
import OverlayGateway.Log.Filter
/-!
The gateway as a process: what its arguments and its environment make it do, what it prints and
which status it exits with. A process that goes on for ever has no outcome. Spans are exported to an
endpoint if one is set, and an endpoint that is no URI keeps the process from starting.
-/

set_option autoImplicit false
set_option relaxedAutoImplicit false

namespace OverlayGateway

/-! ### Spans -/

namespace Telemetry

/-- The variable that holds the endpoint. -/
def endpointVariable : String := "OTEL_EXPORTER_OTLP_ENDPOINT"

/-- Why spans cannot be exported. -/
structure Fault where
  endpoint : Http.UriError
  deriving DecidableEq, Repr

def Fault.message (fault : Fault) : String :=
  "failed to initialize tracer: Exporter OTLP encountered the following error(s): invalid URI " ++
    fault.endpoint.message

/-- The endpoint that an environment asks for. -/
def endpoint (env : Environment) : Except Fault (Option Http.Uri) :=
  match env.nonEmpty? endpointVariable with
  | none => .ok none
  | some text =>
    match Http.Uri.parse text with
    | .ok uri => .ok (some uri)
    | .error fault => .error ⟨fault⟩

end Telemetry

/-! ### The process -/

namespace Program

open CommandLine

/-- The end of a process, with the events that it shows. -/
structure Outcome where
  code : Nat
  stdout : String := ""
  stderr : String := ""
  log : List Log.Event := []
  endedAt : Nat := 0

/-- What the process ends with when there is nothing to do. -/
def ofStop (env : Environment) : Stop → Outcome
  | .help topic =>
    { code := 0
      stdout := shownIn env (helpText ((env.value? optionVariable).getD "") topic) }
  | .version => { code := 0, stdout := versionText ++ "\n" }
  | .fault fault => { code := 2, stderr := shownIn env fault.message }

/-- A failure as the process reports it, with the cause that it wraps. -/
def report (failure : Failure) : String :=
  "Error: " ++ failure.message ++
    (match failure with
      | .bind _ cause => "\n\nCaused by:\n    " ++ cause
      | _ => "") ++ "\n"

def ofFailure (failure : Failure) (log : List Log.Event) (endedAt : Nat) : Outcome :=
  { code := 1, stderr := report failure, log, endedAt }

/-- Waits for the overlay address and prints it. -/
def locate (settings : Settings) (world : Lifecycle.World) (log : List Log.Event) : Outcome :=
  let search := Overlay.locate world.clock settings.interface.backoff settings.interface.name
    world.enumeration world.firedAt
  let log := log ++ Log.within "netmaker_proxy::interface" search.log
  match search.found with
  | some address =>
    { code := 0, stdout := address.text ++ "\n", log, endedAt := search.endedAt }
  | none => { code := 1, log, endedAt := search.endedAt }

/-- The outcome of a run that returned. -/
def ofRun (run : Lifecycle.Run) (log : List Log.Event) : Outcome :=
  let log := log ++ run.log
  match run.result with
  | .ok () => { code := 0, log, endedAt := run.returnedAt }
  | .error failure =>
    let exited := Log.within "netmaker_k8s_proxy"
      [Log.error "Proxy exited with error" [("error", .text failure.message)]]
    ofFailure failure (log ++ exited) run.returnedAt

/-- What the process does with its settings. -/
def execute? {m : Type → Type} [Monad m] (files : FileReader m) (env : Environment)
    (world : Settings → Lifecycle.World) (options : Options) : m (Option Outcome) := do
  let (settings, log) := Settings.ofEnvironment env
  let log := Log.within "netmaker_proxy::config" log
  match settings with
  | .error failure => return some (ofFailure failure log 0)
  | .ok settings =>
    match options.command with
    | .locate => return some (locate settings (world settings) log)
    | .run =>
      match CredentialSource.select options.inCluster env settings.kubeconfig with
      | .error failure => return some (ofFailure failure log 0)
      | .ok source =>
        let loaded ← ClusterAccess.load files env source
        return (Lifecycle.run? settings loaded (world settings)).map (ofRun · log)

/-- The outcome of a process, if it has one. -/
def start? {m : Type → Type} [Monad m] (files : FileReader m) (env : Environment)
    (world : Settings → Lifecycle.World) (arguments : List String) : m (Option Outcome) := do
  match CommandLine.read env arguments with
  | .error stop => return some (ofStop env stop)
  | .ok options =>
    match Telemetry.endpoint env with
    | .error fault => return some { code := 1, stderr := "Error: " ++ fault.message ++ "\n" }
    | .ok _ =>
      let filter := Log.Filter.ofSetting (env.value? "RUST_LOG")
      let outcome ← execute? files env world options
      return outcome.map fun outcome ↦ { outcome with log := outcome.log.filter filter.admits }

end Program

end OverlayGateway
