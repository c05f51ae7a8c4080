import OverlayGateway.Gateway
import OverlayGateway.Http.MediaType
import OverlayGateway.Identity
import OverlayGateway.MappingSync
import OverlayGateway.MappingTable
import OverlayGateway.Probe
/-!
The management API. It reports health and the state of the overlay, lists the mappings, adds and
removes one, and merges those of the remote source on demand. Only a POST that is answered 200, a
DELETE of a decodable key and a successful merge change the table.
-/

set_option autoImplicit false
set_option relaxedAutoImplicit false

namespace OverlayGateway.Management

open Http

/-- The name under which the health endpoints report. -/
def apiName : String := "netmaker-k8s-api"

/-- The longest request body that is read, in bytes. -/
def maxBody : Nat := 2 * 1024 * 1024

/-- What a path leads to. -/
inductive Route where
  | health
  | ready
  | overlayStatus
  | mappings
  /-- One mapping, by its key as it stands in the path. -/
  | mapping (segment : String)
  | syncNow
  deriving DecidableEq, Repr

namespace Route

def mappingsPath : String := "/admin/user-mappings"

/-- The one segment behind the path of the mappings. -/
def mappingSegment? (path : String) : Option String :=
  let start := mappingsPath.toList ++ ['/']
  let segment := path.toList.drop start.length
  if start.isPrefixOf path.toList && segment ≠ [] && !segment.contains '/' then
    some (String.ofList segment)
  else none

def ofPath? (path : String) : Option Route :=
  if path = "/health" then some .health
  else if path = "/ready" then some .ready
  else if path = "/netclient/status" then some .overlayStatus
  else if path = mappingsPath then some .mappings
  else if path = "/admin/sync-external-api" then some .syncNow
  else (mappingSegment? path).map .mapping

/-- The methods of a route, in the order in which they are listed. -/
def methods : Route → List String
  | .health | .ready | .overlayStatus => ["GET", "HEAD"]
  | .mappings => ["GET", "HEAD", "POST"]
  | .mapping _ => ["DELETE"]
  | .syncNow => ["POST"]

end Route

/-- A mapping that a caller asks for. -/
structure NewMapping where
  address : String
  identity : Identity
  deriving DecidableEq, Repr

/-- The reason why a request was not understood. -/
def misformed (details : String) : Failure :=
  .invalidRequest "Invalid request format" (some details)

/-- Whether a body is declared to be JSON. -/
def declaresJson (headers : Headers) : Bool :=
  match ((headers.get? .contentType).bind HeaderValue.readable?).bind MediaType.parse? with
  | some mediaType => mediaType.isJson
  | none => false

def newMappingFields : List (Json.RecordField Texts) :=
  [⟨"ip", Texts.ofOne, none⟩, ⟨"user", Texts.ofOne, none⟩,
    ⟨"groups", Texts.ofMany, some (.many [])⟩]

def decodeNewMapping : Json.Decoder NewMapping := fun value ↦ do
  match ← Json.asRecord "AddMappingRequest" newMappingFields value with
  | [.one address, .one user, .many groups] => return ⟨address, user, groups⟩
  | _ => throw .malformed

/-- Why a body could not be read to its end, in words. -/
def bodyUnread (cause : String) : String := "Failed to buffer the request body: " ++ cause

/-- The mapping in a body: declared as JSON, short enough, complete, decodable, and neither address
nor user blank. -/
def newMapping (request : Request) : Except Failure NewMapping :=
  if !declaresJson request.headers then
    .error (misformed "Expected request with `Content-Type: application/json`")
  else if maxBody < request.body.size then
    .error (misformed (bodyUnread "length limit exceeded"))
  else if let some cause := request.bodyFault then .error (misformed (bodyUnread cause))
  else
    match (Json.readDocument request.body.toList).decode decodeNewMapping with
    | .error .malformed => .error (misformed "Failed to parse the request body as JSON")
    | .error (.schema path message) =>
      .error (misformed ("Failed to deserialize the JSON body into the target type: " ++
        Json.located path message))
    | .ok mapping =>
      if Text.isBlankText mapping.address then .error (misformed "ip is required")
      else if Text.isBlankText mapping.identity.user then .error (misformed "user is required")
      else .ok mapping

/-- What a request leaves: its response, the table and the events. -/
structure Served where
  response : Response
  table : MappingTable
  log : List Log.Event := []

/-- A successful response. -/
def ok (members : List (String × Json.Value)) : Response := .json 200 (.sorted members)

def health (status : String) : Response :=
  ok [("status", .string status), ("api", .string apiName)]

def add (request : Request) (table : MappingTable) : Served :=
  match newMapping request with
  | .error failure => ⟨failure.answer, table, []⟩
  | .ok ⟨address, identity⟩ =>
    ⟨ok [("status", .string "mapping_added"), ("ip", .string address),
        ("user", .string identity.user), ("groups", .strings identity.groups)],
      table.set address identity,
      [Log.info "User IP mapping added"
        [("ip", .text address), ("user", .text identity.user),
          ("groups", .text (Text.quotedList identity.groups))]]⟩

/-- The response to a key that is no text. -/
def undecodable : Response where
  status := 400
  headers :=
    Headers.empty.insert .contentType ⟨Text.utf8 "text/plain; charset=utf-8", by decide, false⟩
  body := "Invalid URL: Invalid UTF-8 in `ip`".toUTF8

def remove (segment : String) (table : MappingTable) : Served :=
  match Text.ofUtf8? (Percent.decodeText segment) with
  | none => ⟨undecodable, table, []⟩
  | some key =>
    ⟨ok [("status", .string "mapping_removed"), ("ip", .string key)], table.remove key,
      [Log.info "User IP mapping removed" [("ip", .text key)]]⟩

/-- A failure of the remote source, whatever its cause. -/
def asSyncFailure : Failure → Failure
  | .sync cause => .sync cause
  | failure => .sync failure.message

def syncNow {m : Type → Type} [Monad m] (settings : SyncSettings) (fetch : m MappingSync.Fetched)
    (table : MappingTable) : m Served := do
  if !settings.isConfigured then return ⟨Failure.syncNotConfigured.answer, table, []⟩
  else
    let merge ← MappingSync.fetchOnce settings fetch table
    match merge.result with
    | .error failure => return ⟨(asSyncFailure failure).answer, merge.table, merge.log⟩
    | .ok _ =>
      return ⟨ok [("status", .string "sync_completed"), ("server", .string settings.serverDomain)],
        merge.table, merge.log ++ [Log.info "Manual external API sync completed" []]⟩

/-- Serves a request to a route by one of its methods. -/
def serveRoute {m : Type → Type} [Monad m] (settings : SyncSettings)
    (fetch : m MappingSync.Fetched) (interfaces : Directory) (table : MappingTable)
    (request : Request) : Route → m Served
  | .health => return ⟨health "healthy", table, []⟩
  | .ready => return ⟨health "ready", table, []⟩
  | .overlayStatus =>
    return ⟨ok [("status", .string "netclient_status"),
      ("data", .sorted (Probe.find interfaces).members)], table, []⟩
  | .mappings =>
    if request.method = "POST" then return add request table
    else return ⟨ok [("status", .string "user_mappings"), ("data", table.document)], table, []⟩
  | .mapping segment => return remove segment table
  | .syncNow => syncNow settings fetch table

/-- The response to a method that a route does not have. -/
def methodNotAllowed (route : Route) : Response where
  status := 405
  headers := Headers.empty.insertText .allow (",".intercalate route.methods)

/-- Serves one request; `fetch` asks the remote source, and `interfaces` is the directory that shows
the overlay. -/
def serve {m : Type → Type} [Monad m] (settings : SyncSettings) (fetch : m MappingSync.Fetched)
    (interfaces : Directory) (table : MappingTable) (peer : String) (request : Request) :
    m Served := do
  let served ← (match Route.ofPath? request.path with
    | none => return { response := .unrouted request.path, table }
    | some route => do
      if route.methods.contains request.method then
        let served ← serveRoute settings fetch interfaces table request route
        return { served with response := served.response.finished request.method }
      else
        return { response := (methodNotAllowed route).finished request.method, table })
  return { served with
    log := served.log ++ [Gateway.requestEvent request peer served.response.status] }

end OverlayGateway.Management
