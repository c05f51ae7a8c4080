import OverlayGateway.Text.Basic
import OverlayGateway.Text.Utf8
/-!
Header names and values. A name is a token without capitals, so equal names are equal texts; a
value is any bytes but controls, a tab excepted. A value is readable when all of it is visible
ASCII, blanks and tabs.
-/

set_option autoImplicit false
set_option relaxedAutoImplicit false

namespace OverlayGateway.Http

/-- The characters of a header name: those of a token, capitals left out. -/
def isNameChar (c : Char) : Bool :=
  ('a' ≤ c && c ≤ 'z') || ('0' ≤ c && c ≤ '9') ||
    "!#$%&'*+-.^_`|~".toList.contains c

def isName (s : String) : Bool := s.toList != [] && s.toList.all isNameChar

structure HeaderName where
  text : String
  wellFormed : isName text = true
  deriving DecidableEq

/-- The bytes that a header value may hold. -/
def isValueByte (b : UInt8) : Bool := (0x20 ≤ b && b != 0x7F) || b == 0x09

/-- Visible ASCII, blanks and tabs. -/
def isReadableByte (b : UInt8) : Bool := (0x20 ≤ b && b < 0x7F) || b == 0x09

structure HeaderValue where
  bytes : List UInt8
  wellFormed : bytes.all isValueByte = true
  /-- Whether the value is a secret of the gateway's own. -/
  sensitive : Bool := false
  deriving DecidableEq

namespace HeaderName

/-- The name that a text denotes in any case of its letters. -/
def ofString? (s : String) : Option HeaderName :=
  if h : isName (Text.lower s) then some ⟨Text.lower s, h⟩ else none

theorem ext_text {a b : HeaderName} (h : a.text = b.text) : a = b := by
  cases a
  cases b
  simp_all

def accessControlAllowHeaders : HeaderName := ⟨"access-control-allow-headers", by decide⟩

def accessControlAllowMethods : HeaderName := ⟨"access-control-allow-methods", by decide⟩

def accessControlAllowOrigin : HeaderName := ⟨"access-control-allow-origin", by decide⟩

def allow : HeaderName := ⟨"allow", by decide⟩

def authorization : HeaderName := ⟨"authorization", by decide⟩

def connection : HeaderName := ⟨"connection", by decide⟩

def contentLength : HeaderName := ⟨"content-length", by decide⟩

def contentType : HeaderName := ⟨"content-type", by decide⟩

def host : HeaderName := ⟨"host", by decide⟩

def keepAlive : HeaderName := ⟨"keep-alive", by decide⟩

def proxyAuthenticate : HeaderName := ⟨"proxy-authenticate", by decide⟩

def proxyAuthorization : HeaderName := ⟨"proxy-authorization", by decide⟩

def te : HeaderName := ⟨"te", by decide⟩

def trailer : HeaderName := ⟨"trailer", by decide⟩

def transferEncoding : HeaderName := ⟨"transfer-encoding", by decide⟩

def upgrade : HeaderName := ⟨"upgrade", by decide⟩

def userAgent : HeaderName := ⟨"user-agent", by decide⟩

def xForwardedFor : HeaderName := ⟨"x-forwarded-for", by decide⟩

end HeaderName

namespace HeaderValue

/-- Why bytes are no header value, in words. -/
def syntaxMessage : String := "failed to parse header value"

def ofBytes? (bytes : List UInt8) : Option HeaderValue :=
  if h : bytes.all isValueByte then some ⟨bytes, h, false⟩ else none

/-- The value whose bytes are the encoding of a text. -/
def ofString? (s : String) : Option HeaderValue := ofBytes? (Text.utf8 s)

/-- The same value, marked as a secret. -/
def secret (value : HeaderValue) : HeaderValue := { value with sensitive := true }

/-- The text of a value that is visible ASCII, blanks and tabs. -/
def readable? (value : HeaderValue) : Option String :=
  if value.bytes.all isReadableByte then
    some (String.ofList (value.bytes.map fun b ↦ Char.ofNat b.toNat))
  else none

end HeaderValue

end OverlayGateway.Http
