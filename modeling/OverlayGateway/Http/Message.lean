import OverlayGateway.Http.Headers
import OverlayGateway.Json.Value
/-!
Requests and responses. The target of a request is its path and its query as they stand in the
request line. The body of a request is what arrives of it, which need not be all of it. The body of
a response is whole before it is sent, or it is streamed: sent while it arrives, so that its length
is not known before and it can break off.
-/

set_option autoImplicit false
set_option relaxedAutoImplicit false

namespace OverlayGateway.Http

structure Request where
  method : String
  path : String
  query : Option String := none
  headers : Headers := {}
  body : ByteArray := .empty
  /-- Why the body broke off, if it did. -/
  bodyFault : Option String := none

structure Response where
  status : Nat
  headers : Headers := {}
  body : ByteArray := .empty
  /-- Whether the body is sent while it arrives. -/
  streamed : Bool := false
  /-- Why the body broke off, if it did. -/
  bodyFault : Option String := none

/-- The value that an ASCII text of digits, letters and visible signs makes. -/
def Headers.insertText (headers : Headers) (name : HeaderName) (text : String) : Headers :=
  match HeaderValue.ofString? text with
  | some value => headers.insert name value
  | none => headers

namespace Response

/-- A response whose body is a JSON document. -/
def json (status : Nat) (body : Json.Value) : Response where
  status := status
  headers := Headers.empty.insert .contentType ⟨Text.utf8 "application/json", by decide, false⟩
  body := body.text.toUTF8

/-- The length of the body, for a response that does not state a length itself and whose body is
whole. -/
def withContentLength (response : Response) : Response :=
  if response.headers.contains .contentLength || response.streamed then response
  else
    { response with
      headers := response.headers.insertText .contentLength (Decimal.write response.body.size) }

def isSuccess (response : Response) : Bool := 200 ≤ response.status && response.status < 300

/-- The response without its body; what it states about the body stays. -/
def withoutBody (response : Response) : Response :=
  { response with body := .empty, streamed := false, bodyFault := none }

/-- Whether a response is known to have a body before that is sent. -/
def announcesBody (response : Response) : Bool :=
  response.headers.contains .contentLength || response.headers.contains .transferEncoding ||
    (!response.streamed && response.body.size ≠ 0)

/-- A response as it leaves a route: its length is stated, and to `HEAD` there is no body. Where it
opens a tunnel no length is added, and a body that is announced is dropped. -/
def finished (response : Response) (method : String) : Response :=
  if method = "CONNECT" && response.isSuccess then
    if response.announcesBody then response.withoutBody else response
  else if method = "HEAD" then response.withContentLength.withoutBody
  else response.withContentLength

/-- The response to a path that leads to no route; a target without a path has a length stated. -/
def unrouted (path : String) : Response :=
  let response : Response := { status := 404 }
  if path.toList.head? = some '/' then response else response.withContentLength

end Response

end OverlayGateway.Http
