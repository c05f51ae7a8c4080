import OverlayGateway.Http.Message
import OverlayGateway.Ip.Address
/-!
Everything that can go wrong, by cause. A failure has a text for the log and an answer for the
caller: a status and a JSON document. A caller that is refused, a mode that is none and a call of
the API server that fails are answered with a fixed sentence; a request, a source, a configuration
or the gateway's own doings at fault are answered with the cause.
-/

set_option autoImplicit false
set_option relaxedAutoImplicit false

namespace OverlayGateway

inductive Failure where
  /-- The gateway has no credential and the caller sent none. -/
  | unauthorized (cause : String)
  /-- The mode is not one that requests can be served in. -/
  | invalidMode (name : String)
  /-- A management request is malformed. -/
  | invalidRequest (summary : String) (details : Option String)
  /-- There is no remote source of mappings. -/
  | syncNotConfigured
  /-- The remote source of mappings failed. -/
  | sync (cause : String)
  /-- The API server could not be reached or did not answer. -/
  | forwarding (cause : String)
  /-- The startup configuration is unusable. -/
  | configuration (cause : String)
  /-- A listener could not be bound. -/
  | bind (socket : Ip.Socket) (cause : String)
  | internal (cause : String)
  deriving DecidableEq

namespace Failure

/-- The text of a failure in the log and on the terminal. -/
def message : Failure → String
  | .unauthorized cause => "authentication failed: " ++ cause
  | .invalidMode name => "unknown proxy mode: " ++ name
  | .invalidRequest summary _ => "invalid request: " ++ summary
  | .syncNotConfigured => "External API not configured"
  | .sync cause => "sync error: " ++ cause
  | .forwarding cause => "proxy error: " ++ cause
  | .configuration cause => "configuration error: " ++ cause
  | .bind socket cause => "failed to bind " ++ socket.text ++ ": " ++ cause
  | .internal cause => "internal error: " ++ cause

/-- The HTTP status of the answer. -/
def status : Failure → Nat
  | .unauthorized _ => 401
  | .invalidRequest _ _ | .syncNotConfigured => 400
  | .forwarding _ => 502
  | .invalidMode _ | .sync _ | .configuration _ | .bind _ _ | .internal _ => 500

/-- The document that the caller gets. -/
def document : Failure → Json.Value
  | .unauthorized _ => .sorted [("error", .string "Proxy authentication required")]
  | .invalidMode _ => .sorted [("error", .string "Invalid proxy configuration")]
  | .invalidRequest summary (some details) =>
    .sorted [("error", .string summary), ("details", .string details)]
  | .invalidRequest summary none => .sorted [("error", .string summary)]
  | .syncNotConfigured => .sorted [("error", .string "External API not configured")]
  | .sync cause =>
    .sorted [("error", .string "Failed to sync from external API"), ("details", .string cause)]
  | .forwarding _ => .sorted [("error", .string "upstream error")]
  | .configuration cause | .internal cause => .sorted [("error", .string cause)]
  | .bind _ _ => .sorted [("error", .string "internal error")]

def answer (failure : Failure) : Http.Response := .json failure.status failure.document

/-- Fragments of a failure's text that mean that the caller went away. -/
def disconnectMarkers : List String := ["client disconnected", "request canceled"]

/-- Whether a text occurs in another one. -/
def occursIn (part : List Char) : List Char → Bool
  | [] => part.isEmpty
  | c :: cs => part.isPrefixOf (c :: cs) || occursIn part cs

/-- Whether a failure only reports that the caller went away. -/
def isDisconnect (failure : Failure) : Bool :=
  disconnectMarkers.any fun marker ↦ occursIn marker.toList failure.message.toList

/-- A failure's text with those of its causes, outermost first. -/
def chain (messages : List String) : String := ": ".intercalate messages

end Failure

end OverlayGateway
