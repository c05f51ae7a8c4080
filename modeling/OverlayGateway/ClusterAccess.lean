import OverlayGateway.Http.Uri
import OverlayGateway.Kubeconfig.Credential
import OverlayGateway.Kubeconfig.Document
import OverlayGateway.Pem
import OverlayGateway.Settings
import OverlayGateway.Url.Parse
/-!
How the API server is reached: its base URL, the gateway's credential and the certificates that
vouch for the server. All three come from the current context of a kubeconfig, or from the service
account of the pod that the gateway runs in.
-/

set_option autoImplicit false
set_option relaxedAutoImplicit false

namespace OverlayGateway

structure ClusterAccess where
  apiServer : Url
  credential : Credential
  /-- The certificates that vouch for the API server. -/
  authorities : List (List UInt8) := []

namespace ClusterAccess

/-- Why a kubeconfig gives no access. -/
inductive Fault where
  | noCurrentContext
  | unknownContext (name : String)
  /-- The cluster of the current context is not there. -/
  | unknownCluster (name : String)
  | noServer
  | badServer (error : Http.UriError)
  | badProxy (error : Http.UriError)
  | badAuthority
  | badCertificates (fault : Pem.Fault)
  deriving DecidableEq, Repr

def Fault.message : Fault → String
  | .noCurrentContext => "failed to determine current context"
  | .unknownContext name => "failed to load current context: " ++ name
  | .unknownCluster name => "failed to load the cluster of context: " ++ name
  | .noServer => "cluster url is missing on selected cluster"
  | .badServer error => "failed to parse cluster url: " ++ error.message
  | .badProxy error => "failed to parse proxy url: " ++ error.message
  | .badAuthority => "failed to load certificate authority"
  | .badCertificates fault => "failed to parse PEM-encoded certificates: " ++ fault.message

/-- The cluster and the user of the current context; a user who is not there has no credential. -/
def selected (config : Kubeconfig) : Except Fault (Kubeconfig.Cluster × Kubeconfig.User) := do
  let some current := config.current | throw .noCurrentContext
  let some context := Kubeconfig.find? config.contexts current | throw (.unknownContext current)
  let some cluster := Kubeconfig.find? config.clusters context.cluster
    | throw (.unknownCluster context.cluster)
  return (cluster, (context.user.bind (Kubeconfig.find? config.users)).getD {})

/-- The bytes of the certificate authority, of which data in the entry goes before a file. -/
def authority {m : Type → Type} [Monad m] (files : FileReader m) (material : Material) :
    m (Except Fault (Option (List UInt8))) := do
  match material.data, material.path with
  | none, none => return .ok none
  | some data, _ =>
    return ((Base64.decode (Text.utf8 data)).mapError fun _ ↦ Fault.badAuthority).map some
  | none, some path => return ((← files path).mapError fun _ ↦ Fault.badAuthority).map some

/-- The certificates in the bytes of a certificate authority. -/
def certificates (bytes : List UInt8) : Except Fault (List (List UInt8)) :=
  ((Pem.read bytes).mapError .badCertificates).map (Pem.contentsOf [Pem.certificateKind])

/-- The server of a cluster. -/
def server (cluster : Kubeconfig.Cluster) : Except Fault Http.Uri := do
  let some server := cluster.server | throw .noServer
  (Http.Uri.parse server).mapError .badServer

/-- The variables that name a proxy for a cluster which names none. -/
def proxyVariables : List String := ["HTTP_PROXY", "http_proxy", "HTTPS_PROXY", "https_proxy"]

/-- A proxy for connections to a cluster has to be named as a URI. -/
def checkProxy (env : Environment) (cluster : Kubeconfig.Cluster) : Except Fault Unit :=
  match (filled cluster.proxy).or (env.firstNonEmpty? proxyVariables) with
  | none => .ok ()
  | some proxy => ((Http.Uri.parse proxy).mapError .badProxy).map fun _ ↦ ()

/-- The server of a cluster, and the certificates that vouch for it. A user's command that is told
about the cluster needs the certificate authority first. -/
def endpoint {m : Type → Type} [Monad m] (files : FileReader m) (env : Environment)
    (cluster : Kubeconfig.Cluster) (user : Kubeconfig.User) :
    m (Except Fault (Http.Uri × List (List UInt8))) := do
  let bytes ← authority files cluster.authority
  return do
    if user.informsPlugin then let _ ← bytes
    let server ← server cluster
    let certificates ← certificates ((← bytes).getD [])
    checkProxy env cluster
    return (server, certificates)

/-- What there is to know of a kubeconfig's cluster, with the user who is to be presented. -/
structure Target where
  server : Http.Uri
  authorities : List (List UInt8)
  user : Kubeconfig.User

/-- The target in a kubeconfig file. -/
def kubeconfigTarget {m : Type → Type} [Monad m] (files : FileReader m) (env : Environment)
    (path : String) : m (Except Failure Target) := do
  let failed (cause : String) : Except Failure Target := .error (.configuration cause)
  match ← Kubeconfig.read files path with
  | .error error => return failed ("failed to read kubeconfig " ++ path ++ ": " ++ error.message)
  | .ok config =>
    let unusable (fault : Fault) : Except Failure Target :=
      failed ("failed to load kubeconfig " ++ path ++ ": " ++ fault.message)
    match selected config with
    | .error fault => return unusable fault
    | .ok (cluster, user) =>
      match ← endpoint files env cluster user with
      | .error fault => return unusable fault
      | .ok (server, authorities) => return .ok { server, authorities, user }

/-- The directory in which a pod finds its service account. -/
def serviceAccount : String := "/var/run/secrets/kubernetes.io/serviceaccount"

/-- The URI of a server by host and port; a port that goes without saying is left out. -/
def serverText (host : String) (port : Nat) : String :=
  let shown := match Ip.Address.parse? host with
    | some (.v6 address) => "[" ++ (Ip.Address.v6 address).text ++ "]"
    | some address => address.text
    | none => host
  "https://" ++ shown ++ (if port = 443 then "" else ":" ++ Decimal.write port)

/-- The server that a pod is told of, or in words why there is none. -/
def podServer (env : Environment) : Except String Http.Uri := do
  let missing := "failed to read an incluster environment variable: environment variable not found"
  let some host := env.value? "KUBERNETES_SERVICE_HOST" | throw missing
  let some port := env.value? "KUBERNETES_SERVICE_PORT" | throw missing
  let port ← (Decimal.read UInt16.size port).mapError fun error ↦
    "failed to parse cluster port: " ++ error.message
  (Http.Uri.parse (serverText host port)).mapError fun error ↦
    "failed to parse cluster url: " ++ error.message

/-- The target of a pod: the server that it is told of and the token of its service account, which
may be replaced at any time. -/
def podTarget {m : Type → Type} [Monad m] (files : FileReader m) (env : Environment) :
    m (Except Failure Target) := do
  let failed (cause : String) : Except Failure Target :=
    .error (.configuration ("failed to load in-cluster config: " ++ cause))
  match podServer env with
  | .error cause => return failed cause
  | .ok server =>
    match ← files (serviceAccount ++ "/namespace") with
    | .error error => return failed ("failed to read the default namespace: " ++ error.message)
    | .ok _ =>
      match ← files (serviceAccount ++ "/ca.crt") with
      | .error error => return failed ("failed to read root certificate bundle: " ++ error.message)
      | .ok bytes =>
        match certificates bytes with
        | .error fault => return failed fault.message
        | .ok authorities =>
          return .ok
            { server, authorities, user := { tokenFile := some (serviceAccount ++ "/token") } }

/-- The access to a target, and the events on the way. -/
def ofTarget {m : Type → Type} [Monad m] (files : FileReader m) (target : Target) :
    m (Except Failure (ClusterAccess × List Log.Event)) := do
  match Url.parse target.server.text with
  | .error error =>
    return .error
      (.configuration
        ("invalid API server URL " ++ target.server.text ++ ": " ++ error.message))
  | .ok apiServer =>
    match ← Credential.ofUser files target.user with
    | .error failure => return .error failure
    | .ok (credential, log) =>
      let loaded := Log.info "Loaded Kubernetes credentials"
        [("api_server", .text apiServer.text), ("credential", .text credential.kind)]
      return .ok ({ apiServer, credential, authorities := target.authorities }, log ++ [loaded])

/-- The access that a source gives. -/
def load {m : Type → Type} [Monad m] (files : FileReader m) (env : Environment)
    (source : CredentialSource) : m (Except Failure (ClusterAccess × List Log.Event)) := do
  let target ← match source with
    | .inCluster => podTarget files env
    | .kubeconfig path => kubeconfigTarget files env path
  match target with
  | .error failure => return .error failure
  | .ok target => ofTarget files target

end ClusterAccess

end OverlayGateway
