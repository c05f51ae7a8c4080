import OverlayGateway.Base64
import OverlayGateway.Failure
import OverlayGateway.File
import OverlayGateway.Impersonation
import OverlayGateway.Text.Basic
/-!
The gateway's own credential. A token, a token file or a name with a password replaces whatever the
caller sent as `Authorization`; a client certificate speaks on the connection and leaves the header
alone; without any credential the caller has to bring its own.
-/

set_option autoImplicit false
set_option relaxedAutoImplicit false

namespace OverlayGateway

inductive Credential where
  | bearerToken (token : String)
  /-- A token that is read from a file for every request. -/
  | bearerTokenFile (path : String)
  /-- A certificate chain and its key. -/
  | clientCertificate (pem : List UInt8)
  | basic (username password : String)
  | missing
  deriving DecidableEq, Repr

/-- Where the token in a file is read from. -/
abbrev TokenReader (m : Type → Type) := String → m (Except Failure String)

namespace Credential

open Http

def kind : Credential → String
  | .bearerToken _ => "bearer_token"
  | .bearerTokenFile _ => "bearer_token_file"
  | .clientCertificate _ => "client_certificate"
  | .basic _ _ => "basic"
  | .missing => "none"

/-- A description without secrets. -/
def summary : Credential → String
  | .bearerToken _ => "BearerToken([REDACTED])"
  | .bearerTokenFile path => "BearerTokenFile(" ++ path ++ ")"
  | .clientCertificate _ => "ClientCertificate([REDACTED])"
  | .basic username _ => "Basic(" ++ username ++ ", [REDACTED])"
  | .missing => "None"

/-- The tokens in files, blanks around them dropped. -/
def tokenOfFile {m : Type → Type} [Monad m] (files : FileReader m) : TokenReader m := fun path ↦ do
  let failed (cause : String) : Except Failure String :=
    .error (.internal ("failed to read token file " ++ path ++ ": " ++ cause))
  match ← files path with
  | .error error => return failed error.message
  | .ok bytes =>
    match Text.ofUtf8? bytes with
    | some text => return .ok (Text.trim text)
    | none => return failed "stream did not contain valid UTF-8"

/-- The agent that the gateway names in every request of its own. -/
def userAgent : HeaderValue := ⟨Text.utf8 "netmaker-k8s-proxy/1.0", by decide, false⟩

/-- Makes a secret the one `Authorization` value. -/
def authorize (text : String) (headers : Headers) : Except Failure Headers :=
  match HeaderValue.ofString? text with
  | some value => .ok (headers.insert .authorization value.secret)
  | none => .error Impersonation.unsendable

/-- The `Authorization` text of a name and a password. -/
def basicText (username password : String) : String :=
  "Basic " ++ String.ofList
    ((Base64.encode (Text.utf8 (username ++ ":" ++ password))).map fun b ↦ Char.ofNat b.toNat)

def bearerText (token : String) : String := "Bearer " ++ token

def unauthorized : Failure :=
  .unauthorized "no upstream credentials configured and no Authorization header"

/-- An edit of headers in place, which may fail; what it has written by then stays written. -/
abbrev Edit (m : Type → Type) := ExceptT Failure (StateT Headers m)

/-- Makes a secret the one `Authorization` value of the headers. -/
def authorizing {m : Type → Type} [Monad m] (text : String) : Edit m Unit := do
  match authorize text (← get) with
  | .ok headers => set headers
  | .error failure => throw failure

/-- Attaches the credential to headers in place. -/
def attaching {m : Type → Type} [Monad m] (credential : Credential) (tokens : TokenReader m) :
    Edit m Unit := do
  match credential with
  | .bearerToken token => authorizing (bearerText token)
  | .bearerTokenFile path =>
    match ← tokens path with
    | .ok token => authorizing (bearerText token)
    | .error failure => throw failure
  | .clientCertificate _ => pure ()
  | .basic username password => authorizing (basicText username password)
  | .missing => if (← get).contains .authorization then pure () else throw unauthorized
  modify fun headers ↦ headers.insert .userAgent userAgent

/-- The headers with the credential attached. -/
def attach {m : Type → Type} [Monad m] (credential : Credential) (tokens : TokenReader m)
    (headers : Headers) : m (Except Failure Headers) := do
  let (result, left) ← (credential.attaching tokens).run.run headers
  return result.map fun _ ↦ left

end Credential

end OverlayGateway
