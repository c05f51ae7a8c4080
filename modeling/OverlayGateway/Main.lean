import OverlayGateway.Json.Value
import OverlayGateway.MappingSync
import OverlayGateway.Program
/-!
The command. It hands its arguments, its environment and the files of the host to the program, shows
the events and the texts that come of it, and exits with its status. This build has no sockets:
nothing can be listened at or reached, and the interfaces of the host are not listed.
-/

set_option autoImplicit false
set_option relaxedAutoImplicit false

namespace OverlayGateway.Main

/-- The variables that the program reads. -/
def variableNames : List String :=
  ["API_BIND_IP", "API_PORT", "API_SERVER_DOMAIN", "API_SYNC_INTERVAL", "API_TOKEN",
    "CLICOLOR_FORCE", "EXTERNAL_API_SERVER_DOMAIN", "EXTERNAL_API_SYNC_INTERVAL",
    "EXTERNAL_API_TOKEN", "HOME", "IFACE_NAME", CommandLine.optionVariable, "KUBECONFIG",
    "KUBERNETES_SERVICE_HOST", "KUBERNETES_SERVICE_PORT", "NO_COLOR",
    Telemetry.endpointVariable, "PROXY_BIND_IP", "PROXY_IMPERSONATE_GROUPS",
    "PROXY_IMPERSONATE_USER", "PROXY_MODE", "PROXY_PORT", "PROXY_SKIP_TLS_VERIFY", "RUST_LOG",
    "WIREGUARD_RETRY_BASE_DELAY_SECONDS", "WIREGUARD_RETRY_MAX_ATTEMPTS",
    "WIREGUARD_RETRY_MAX_DELAY_SECONDS"] ++
    ClusterAccess.proxyVariables

def environment : IO Environment := do
  let values ← variableNames.mapM fun key ↦ do return (← IO.getEnv key).map fun value ↦ (key, value)
  return .ofList (values.filterMap id)

/-- The cause of a failure to read a file. -/
def fileError : IO.Error → FileError
  | .noFileOrDirectory _ _ _ => .notFound
  | .permissionDenied _ _ _ => .permissionDenied
  | .inappropriateType _ _ _ => .isDirectory
  | error => .other (toString error)

/-- The files of the host. -/
def files : FileReader IO := fun path ↦ do
  try
    let bytes ← IO.FS.readBinFile path
    return .ok bytes.toList
  catch error => return .error (fileError error)

/-- A host without sockets. -/
def world (settings : Settings) : Lifecycle.World where
  listing _ := .error (.internal "interface addresses are not available")
  fetch _ :=
    { answer := (Remote.fetch (m := Id) Remote.unreachable (Remote.endpoint settings.sync)
        settings.sync.apiToken).run }
  bind _ _ := .error "Operation not supported (os error 95)"
  firedAt := none

def levelName : Log.Level → String
  | .error => "ERROR"
  | .warn => "WARN"
  | .info => "INFO"

def fieldValue : Log.Field → Json.Value
  | .text value => .string value
  | .count value => .nat value
  | .flag value => .bool value
  | .span value => .string (Log.spanText value)

/-- An event as one line. -/
def line (event : Log.Event) : String :=
  Json.Value.text
    (.object
      [("level", .string (levelName event.level)),
        ("fields",
          .object (("message", .string event.message) ::
            event.fields.map fun (key, value) ↦ (key, fieldValue value))),
        ("target", .string event.scope)])

/-- Shows an outcome, after the time that it took. -/
def conclude (outcome : Program.Outcome) : IO UInt32 := do
  IO.sleep (outcome.endedAt / nanosPerMilli).toUInt32
  outcome.log.forM fun event ↦ IO.println (line event)
  IO.print outcome.stdout
  IO.eprint outcome.stderr
  return outcome.code.toUInt32

end OverlayGateway.Main

def main (arguments : List String) : IO UInt32 := do
  let environment ← OverlayGateway.Main.environment
  match ← OverlayGateway.Program.start? OverlayGateway.Main.files environment
      OverlayGateway.Main.world arguments with
  | some outcome => OverlayGateway.Main.conclude outcome
  | none => return 0
