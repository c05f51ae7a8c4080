import OverlayGateway.Http.Headers
import OverlayGateway.Text.Basic
/-!
Headers on their way through the gateway. Headers that describe one connection are dropped,
together with those that a readable `Connection` value names; the caller's address goes to the end
of `X-Forwarded-For`; an upgrade is asked for by an `Upgrade` header and a `Connection` token.
-/

set_option autoImplicit false
set_option relaxedAutoImplicit false

namespace OverlayGateway.Forwarding

open Http

/-- The headers that describe a single connection. -/
def hopByHop : List HeaderName :=
  [.connection, .keepAlive, .proxyAuthenticate, .proxyAuthorization, .te, .trailer,
    .transferEncoding, .upgrade]

/-- The tokens of the readable `Connection` values, without the blanks around them. -/
def connectionTokens (headers : Headers) : List String :=
  ((headers.values .connection).filterMap HeaderValue.readable?).flatMap fun value ↦
    (Text.split ',' value).map Text.trim

/-- The headers that the `Connection` values name. -/
def connectionNames (headers : Headers) : List HeaderName :=
  (connectionTokens headers).filterMap HeaderName.ofString?

/-- The headers that are meant for every hop. -/
def stripHopByHop (headers : Headers) : Headers :=
  headers.eraseWhere fun name ↦ (connectionNames headers).contains name || hopByHop.contains name

/-- Puts an address behind the readable `X-Forwarded-For` values, which become one value. Nothing
changes if that value cannot be sent, which no address brings about. -/
def appendForwardedFor (headers : Headers) (address : String) : Headers :=
  let prior := (headers.values .xForwardedFor).filterMap HeaderValue.readable?
  match HeaderValue.ofString? (", ".intercalate (prior ++ [address])) with
  | some value => headers.insert .xForwardedFor value
  | none => headers

/-- Whether the caller asks to switch protocols. -/
def isUpgrade (headers : Headers) : Bool :=
  headers.contains .upgrade &&
    (connectionTokens headers).any fun token ↦ Text.lower token = "upgrade"

/-- The headers of a request as the API server gets them, the addresses of the two ends and the
framing left to the connection that carries them. -/
def requestHeaders (headers : Headers) (peer : String) : Headers :=
  appendForwardedFor (((stripHopByHop headers).erase .host).erase .contentLength) peer

/-- As `requestHeaders`, asking for the first protocol that the caller wants to switch to. -/
def upgradeHeaders (headers : Headers) (peer : String) : Headers :=
  match headers.get? .upgrade with
  | none => requestHeaders headers peer
  | some protocol =>
    ((requestHeaders headers peer).insert .upgrade protocol).insert .connection
      ⟨Text.utf8 "Upgrade", by decide, false⟩

end OverlayGateway.Forwarding
