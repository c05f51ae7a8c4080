import OverlayGateway.Backoff
import OverlayGateway.Environment
import OverlayGateway.Failure
import OverlayGateway.File
import OverlayGateway.Identity
import OverlayGateway.Ip.Parse
import OverlayGateway.Listener
import OverlayGateway.Log
import OverlayGateway.Text.Quoted
/-!
The settings that the gateway reads once, at startup, from its environment. Whatever is malformed
falls back to a default, except an address to listen at: the gateway does not listen where it was
not told to.
-/

set_option autoImplicit false
set_option relaxedAutoImplicit false

namespace OverlayGateway

/-- The remote source of mappings and how often it is asked. -/
structure SyncSettings where
  serverDomain : String := ""
  apiToken : String := ""
  interval : Duration := .ofSeconds 30
  deriving DecidableEq

/-- How the overlay interface is waited for. -/
structure InterfaceSettings where
  name : String := "netmaker"
  backoff : Backoff := {}
  deriving DecidableEq

/-- Where the two listeners bind. -/
structure ListenSettings where
  proxyPort : UInt16 := Listener.defaultProxyPort
  proxyAddress : Option Ip.Address := none
  managementPort : UInt16 := Listener.defaultManagementPort
  managementAddress : Option Ip.Address := none
  deriving DecidableEq

structure Settings where
  policy : Policy := {}
  sync : SyncSettings := {}
  interface : InterfaceSettings := {}
  listen : ListenSettings := {}
  /-- Whether any certificate of the API server is accepted. -/
  skipTlsVerify : Bool := true
  kubeconfig : Option String := none
  deriving DecidableEq

namespace SyncSettings

/-- Mappings are fetched only from a known server with a token. -/
def isConfigured (settings : SyncSettings) : Bool :=
  settings.serverDomain ≠ "" && settings.apiToken ≠ ""

/-- The interval in seconds, with its fraction if it has one. -/
def intervalText (interval : Duration) : String :=
  let fraction := Nat.toDigits 10 (interval.subsecond + nanosPerSecond)
  let shown := ((fraction.drop 1).reverse.dropWhile (· == '0')).reverse
  String.ofList (Nat.toDigits 10 interval.seconds ++
    (if shown = [] then [] else '.' :: shown) ++ ['s'])

/-- A description without the token. -/
def summary (settings : SyncSettings) : String :=
  "ExternalSyncConfig \x7b server_domain: " ++ Text.quoted settings.serverDomain ++
    ", api_token: \"[REDACTED]\", sync_interval: " ++ intervalText settings.interval ++ " \x7d"

def ofEnvironment (env : Environment) : SyncSettings :=
  let seconds :=
    (env.firstNonEmpty? ["EXTERNAL_API_SYNC_INTERVAL", "API_SYNC_INTERVAL"]).bind fun value ↦
      (Decimal.read? UInt64.size (Text.trim value)).filter (0 < ·)
  { serverDomain :=
      (env.firstNonEmpty? ["EXTERNAL_API_SERVER_DOMAIN", "API_SERVER_DOMAIN"]).getD ""
    apiToken := (env.firstNonEmpty? ["EXTERNAL_API_TOKEN", "API_TOKEN"]).getD ""
    interval := .ofSeconds (seconds.getD 30) }

end SyncSettings

/-- The policy that the environment asks for, and whether it named a mode that there is not. -/
def Policy.ofEnvironment (env : Environment) : Policy × List Log.Event :=
  let (mode, log) : Mode × List Log.Event :=
    match (env.nonEmpty? "PROXY_MODE").map Mode.parse with
    | none => (.auth, [])
    | some (.unrecognized name) =>
      (.auth, [Log.warn "Unrecognized PROXY_MODE, defaulting to auth" [("mode", .text name)]])
    | some mode => (mode, [])
  let fallback : Identity :=
    { user := (env.nonEmpty? "PROXY_IMPERSONATE_USER").getD Identity.overlayPeer.user
      groups :=
        ((env.nonEmpty? "PROXY_IMPERSONATE_GROUPS").map listEntries).getD
          Identity.overlayPeer.groups }
  (⟨mode, fallback⟩, log)

def InterfaceSettings.ofEnvironment (env : Environment) : InterfaceSettings where
  name := (env.nonEmpty? "IFACE_NAME").getD "netmaker"
  backoff :=
    { maxAttempts := env.natBelow UInt32.size "WIREGUARD_RETRY_MAX_ATTEMPTS" 20
      baseDelay := .ofSeconds (env.natBelow UInt64.size "WIREGUARD_RETRY_BASE_DELAY_SECONDS" 3)
      maxDelay := .ofSeconds (env.natBelow UInt64.size "WIREGUARD_RETRY_MAX_DELAY_SECONDS" 30) }

namespace ListenSettings

/-- Whether both addresses are set, so that the overlay address is not needed. -/
def isPinned (settings : ListenSettings) : Bool :=
  settings.proxyAddress.isSome && settings.managementAddress.isSome

/-- The address in a variable, if it is set to one. -/
def addressIn (env : Environment) (key : String) : Except Failure (Option Ip.Address) :=
  match env.nonEmpty? key with
  | none => .ok none
  | some value =>
    match Ip.Address.parse? (Text.trim value) with
    | some address => .ok (some address)
    | none =>
      .error (.configuration
        (key ++ "=" ++ value ++ " is not an IP address: " ++ Ip.syntaxMessage))

def ofEnvironment (env : Environment) : Except Failure ListenSettings := do
  let proxyAddress ← addressIn env "PROXY_BIND_IP"
  let managementAddress ← addressIn env "API_BIND_IP"
  return {
    proxyPort :=
      .ofNat (env.natBelow UInt16.size "PROXY_PORT" Listener.defaultProxyPort.toNat)
    proxyAddress
    managementPort :=
      .ofNat (env.natBelow UInt16.size "API_PORT" Listener.defaultManagementPort.toNat)
    managementAddress }

end ListenSettings

namespace Settings

/-- The kubeconfig that a variable names, else the one below the home directory. -/
def kubeconfigPath (env : Environment) : Option String :=
  (env.nonEmpty? "KUBECONFIG").or
    ((env.nonEmpty? "HOME").map fun home ↦ Path.join home ".kube/config")

/-- The settings in an environment, or why it has none, with the events on the way. -/
def ofEnvironment (env : Environment) : Except Failure Settings × List Log.Event :=
  let (policy, log) := Policy.ofEnvironment env
  let settings := (ListenSettings.ofEnvironment env).map fun listen ↦
    { policy
      sync := .ofEnvironment env
      interface := .ofEnvironment env
      listen
      skipTlsVerify := env.value? "PROXY_SKIP_TLS_VERIFY" ≠ some "false"
      kubeconfig := kubeconfigPath env }
  (settings, log)

end Settings

/-- Where the credentials of the API server come from. -/
inductive CredentialSource where
  /-- The service account of a pod. -/
  | inCluster
  /-- The current context of a kubeconfig. -/
  | kubeconfig (path : String)
  deriving DecidableEq, Repr

/-- The source that is asked for, else the one that the environment shows. -/
def CredentialSource.select (inCluster : Option Bool) (env : Environment)
    (kubeconfig : Option String) : Except Failure CredentialSource :=
  if inCluster.getD (env.nonEmpty? "KUBERNETES_SERVICE_HOST").isSome then .ok .inCluster
  else
    match kubeconfig with
    | some path => .ok (.kubeconfig path)
    | none =>
      .error (.configuration "not running in-cluster and neither KUBECONFIG nor HOME is set")

end OverlayGateway
