import OverlayGateway.Failure
import OverlayGateway.Log
import OverlayGateway.MappingTable
import OverlayGateway.Settings
import OverlayGateway.Url.Parse
/-!
Merging the mappings of a remote source into the table. One merge takes everything the source sent
or, when the source fails, nothing; entries that the source does not know stay as they are.

The remote source is an HTTP endpoint of the overlay's server. Its answer counts only with status
200 and a body that decodes as a whole; any other outcome is a failure of the source.
-/

set_option autoImplicit false
set_option relaxedAutoImplicit false

namespace OverlayGateway

namespace MappingSync

/-- What one request to the remote source gives. -/
abbrev Fetched := Except Failure MappingTable

/-- The entries written, or why none were; the table afterwards, and the events on the way. -/
structure Merge where
  result : Except Failure Nat
  table : MappingTable
  log : List Log.Event

/-- Merges what the source sent. -/
def merge (table : MappingTable) : Fetched → Merge
  | .ok payload =>
    ⟨.ok payload.size, table.merge payload.entries,
      [Log.info "Updating user mappings from external API" [("count", .count payload.size)]]⟩
  | .error failure => ⟨.error failure, table, []⟩

/-- Asks the source once, if there is one. -/
def fetchOnce {m : Type → Type} [Monad m] (settings : SyncSettings) (fetch : m Fetched)
    (table : MappingTable) : m Merge := do
  if settings.isConfigured then return merge table (← fetch) else return ⟨.ok 0, table, []⟩

end MappingSync

/-! ### The remote source -/

namespace Remote

def mappingsPath : String := "/api/users/network_ip"

/-- The endpoint of a server. -/
def endpoint (settings : SyncSettings) : String :=
  "https://" ++ settings.serverDomain ++ mappingsPath

/-- A request for the mappings: where to, and with which token. -/
structure Query where
  url : Url
  token : String

/-- An answer of the endpoint: its body is what arrives of it, or the reason why it breaks off. -/
structure Received where
  status : Nat
  body : Except String (List UInt8)

/-- What the network makes of a query: an answer, or a reason why there is none. -/
abbrev Transport (m : Type → Type) := Query → m (Except String Received)

def faultText : Json.Fault → String
  | .malformed => "error decoding response body"
  | .schema _ message => "error decoding response body: " ++ message

/-- The failure of a body that is no table. -/
def undecoded (cause : String) : Failure := .sync ("failed to decode response: " ++ cause)

/-- The failure of an answer with another status than 200; of its body nothing is shown if it breaks
off. -/
def unsuccessful (received : Received) : Failure :=
  let shown := (received.body.map Text.lossy).toOption.getD ""
  .sync ("API request failed with status " ++ Decimal.write received.status ++ ": " ++ shown)

/-- The table in an answer. -/
def table (received : Received) : MappingSync.Fetched :=
  if received.status ≠ 200 then .error (unsuccessful received)
  else
    match received.body with
    | .error cause => .error (undecoded cause)
    | .ok bytes => (MappingTable.ofRemote bytes).mapError fun fault ↦ undecoded (faultText fault)

/-- The failure of an endpoint that is no URL. -/
def malformedEndpoint (endpoint : String) (error : UrlError) : Failure :=
  .sync ("invalid request URL " ++ endpoint ++ ": " ++ error.message)

/-- The failure of a query that is not answered. -/
def unanswered (cause : String) : Failure := .sync ("failed to make request: " ++ cause)

/-- Asks an endpoint for its mappings. -/
def fetch {m : Type → Type} [Monad m] (transport : Transport m) (endpoint token : String) :
    m MappingSync.Fetched := do
  match Url.parse endpoint with
  | .error error => return .error (malformedEndpoint endpoint error)
  | .ok url =>
    match ← transport ⟨url, token⟩ with
    | .error cause => return .error (unanswered cause)
    | .ok received => return table received

/-- A network on which nothing can be reached. -/
def unreachable {m : Type → Type} [Monad m] : Transport m := fun _ ↦
  return .error "error sending request"

end Remote

end OverlayGateway
