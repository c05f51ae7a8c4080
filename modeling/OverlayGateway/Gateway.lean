import OverlayGateway.Credential
import OverlayGateway.Forwarding
import OverlayGateway.Log
import OverlayGateway.Url.Path
/-!
The reverse proxy. A request is answered by the gateway itself or becomes one call of the API
server: the path has to be one that is proxied, a preflight is answered at once, and a caller has
to be presented and authenticated before anything is sent. Every request is logged, whoever
answers it.
-/

set_option autoImplicit false
set_option relaxedAutoImplicit false

namespace OverlayGateway

open Http

/-- The longest request body that is forwarded, in bytes. -/
def Gateway.maxBody : Nat := 10 * 1024 * 1024

/-- How requests are forwarded: the policy for callers, the gateway's own credential and the base
URL of the API server. -/
structure Gateway where
  policy : Policy := {}
  credential : Credential
  apiServer : Url

namespace Gateway

/-- Whether the API server is asked for an answer or for a connection. -/
inductive Via where
  | send
  | upgrade
  deriving DecidableEq, Repr

/-- A request as the API server gets it. -/
structure Call where
  via : Via
  method : String
  url : Url
  headers : Headers
  body : ByteArray

/-- What a call of the API server comes to. -/
inductive Reply where
  | response (response : Response)
  /-- The connection is switched to another protocol, with some headers. -/
  | switched (headers : Headers)
  | failed (failure : Failure)

/-- An answer, and the events before the request itself is logged. -/
structure Answer where
  response : Response
  log : List Log.Event := []

/-- The paths that are proxied: four of them, and everything below two of those. -/
def admits (path : String) : Bool :=
  ["/api", "/apis", "/version", "/metrics"].contains path ||
    ["/api/", "/apis/"].any fun root ↦
      root.toList.isPrefixOf path.toList && root.length < path.length

/-- Allows a page of any origin to read a response. -/
def allowOrigins (headers : Headers) : Headers :=
  ((headers.insert .accessControlAllowOrigin ⟨Text.utf8 "*", by decide, false⟩).insert
    .accessControlAllowMethods
      ⟨Text.utf8 "GET, POST, PUT, DELETE, OPTIONS", by decide, false⟩).insert
    .accessControlAllowHeaders ⟨Text.utf8 "Content-Type, Authorization", by decide, false⟩

def preflight : Response := { status := 200, headers := allowOrigins {} }

/-- The answer to a caller that went away. -/
def callerGone : Response := { status := 499 }

/-- The answer to a call that failed; that the caller went away is not worth an event. -/
def failed (failure : Failure) : Answer :=
  if failure.isDisconnect then { response := callerGone }
  else
    { response := failure.answer
      log := [Log.error "Failed to proxy request to API server"
        [("error", .text failure.message)]] }

/-- The headers of a request whose caller is presented and authenticated. -/
def authenticate {m : Type → Type} [Monad m] (gateway : Gateway) (tokens : TokenReader m)
    (table : MappingTable) (caller : Ip.Address) (headers : Headers) :
    m (Except Failure Headers) :=
  let draft := Impersonation.apply gateway.policy table caller headers
  match draft.failure with
  | some failure => return .error failure
  | none => gateway.credential.attach tokens draft.headers

/-- The failure of a body that cannot be read to its end. -/
def bodyUnread (cause : String) : Failure := .forwarding ("failed to read request body: " ++ cause)

def bodyTooLong : Failure := bodyUnread "length limit exceeded: length limit exceeded"

/-- The body of a request, which has to be short enough and to arrive as a whole. -/
def readBody (request : Request) : Except Failure ByteArray :=
  if maxBody < request.body.size then .error bodyTooLong
  else
    match request.bodyFault with
    | some cause => .error (bodyUnread cause)
    | none => .ok request.body

/-- The call that an authenticated request becomes. -/
def call (gateway : Gateway) (caller : Ip.Address) (request : Request) : Except Failure Call :=
  let url := gateway.apiServer.below request.path request.query
  if Forwarding.isUpgrade request.headers then
    .ok ⟨.upgrade, request.method, url,
      Forwarding.upgradeHeaders request.headers caller.text, .empty⟩
  else
    (readBody request).map fun body ↦
      ⟨.send, request.method, url, Forwarding.requestHeaders request.headers caller.text, body⟩

/-- What becomes of a request. -/
inductive Plan where
  | answer (answer : Answer)
  | call (call : Call)

def plan {m : Type → Type} [Monad m] (gateway : Gateway) (tokens : TokenReader m)
    (table : MappingTable) (caller : Ip.Address) (request : Request) : m Plan := do
  if !admits request.path then return .answer { response := .unrouted request.path }
  else if request.method = "OPTIONS" then return .answer { response := preflight }
  else
    match ← gateway.authenticate tokens table caller request.headers with
    | .error failure => return .answer { response := failure.answer }
    | .ok headers =>
      match gateway.call caller { request with headers } with
      | .error failure => return .answer (failed failure)
      | .ok call => return .call call

/-- The answer that the caller gets for a reply. -/
def ofReply : Reply → Answer
  | .response response =>
    { response :=
        { response with headers := allowOrigins (Forwarding.stripHopByHop response.headers) } }
  | .switched headers => { response := { status := 101, headers := allowOrigins headers } }
  | .failed failure => failed failure

/-- Whether a reply leaves a connection to be bridged. -/
def Reply.isSwitched : Reply → Bool
  | .switched _ => true
  | .response _ | .failed _ => false

/-- The access log of a request. -/
def requestEvent (request : Request) (caller : String) (status : Nat) : Log.Event :=
  Log.info "Request"
    [("method", .text request.method), ("path", .text request.path), ("client_ip", .text caller),
      ("status", .count status)]

/-- The event of a caller whose connection could not be switched. -/
def unswitchedEvent (cause : String) : Log.Event :=
  Log.error "Failed to upgrade client connection" [("error", .text cause)]

/-- An answer as it leaves: the event of its request stands behind those of its own, and events of
the connection behind both. -/
def conclude (request : Request) (caller : String) (answer : Answer) (after : List Log.Event) :
    Answer :=
  let response :=
    if admits request.path then answer.response.finished request.method else answer.response
  ⟨response, answer.log ++ requestEvent request caller response.status :: after⟩

/-- Serves one request; `send` calls the API server, and `connection` says why the caller's own
connection cannot be switched, if it cannot. -/
def serve {m : Type → Type} [Monad m] (gateway : Gateway) (tokens : TokenReader m)
    (send : Call → m Reply) (connection : Option String) (table : MappingTable) (peer : Ip.Socket)
    (request : Request) : m Answer := do
  let caller := peer.address.canonical
  match ← gateway.plan tokens table caller request with
  | .answer answer => return conclude request caller.text answer []
  | .call call =>
    let reply ← send call
    let after := if reply.isSwitched then (connection.map unswitchedEvent).toList else []
    return conclude request caller.text (ofReply reply) after

end Gateway

end OverlayGateway
