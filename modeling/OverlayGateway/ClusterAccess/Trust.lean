import OverlayGateway.Certificate
import OverlayGateway.ClusterAccess
import OverlayGateway.Pem.Lines
import OverlayGateway.PrivateKey
/-!
Whether connections to the API server can be made at all. A client certificate has to come with the
private key that belongs to it, and the certificates that vouch for the server have to be
certificates, unless whatever the server shows is accepted anyway.
-/

set_option autoImplicit false
set_option relaxedAutoImplicit false

namespace OverlayGateway.ClusterAccess

def invalidIdentity : Failure := .configuration "invalid client certificate: builder error"

def unusableCertificate : Failure :=
  .configuration
    "failed to build upstream client: builder error: invalid peer certificate: BadEncoding"

/-- A chain of certificates with private keys. -/
structure ClientIdentity where
  chain : List (List UInt8) := []
  keys : List PrivateKey := []

namespace ClientIdentity

/-- The kinds of sections that are known and have no place in an identity. -/
def foreignKinds : List String := ["PUBLIC KEY", "X509 CRL", "CERTIFICATE REQUEST", "ECHCONFIG"]

/-- The identity with a further section; sections of an unknown kind are passed over. -/
def extend? (identity : ClientIdentity) (body : Pem.Body) : Option ClientIdentity :=
  let withKey (key : List UInt8 → PrivateKey) : Option ClientIdentity :=
    (Base64.decodeLoose? body.lines).map fun bytes ↦
      { identity with keys := identity.keys ++ [key bytes] }
  if body.kind = Text.utf8 Pem.certificateKind then
    (Base64.decodeLoose? body.lines).map fun bytes ↦
      { identity with chain := identity.chain ++ [bytes] }
  else if body.kind = Text.utf8 "PRIVATE KEY" then withKey .wrapped
  else if body.kind = Text.utf8 "RSA PRIVATE KEY" then withKey .rsa
  else if body.kind = Text.utf8 "EC PRIVATE KEY" then withKey .curve
  else if (foreignKinds.map Text.utf8).contains body.kind then none
  else some identity

/-- The identity in a text, which needs a certificate and a key. -/
def ofPem? (pem : List UInt8) : Option ClientIdentity := do
  let identity ← (← Pem.bodies? pem).foldlM extend? {}
  if identity.chain = [] ∨ identity.keys = [] then none else some identity

/-- Whether the last key is the one of the first certificate. -/
def isUsable (identity : ClientIdentity) : Bool :=
  let key := identity.keys.getLast?.bind PrivateKey.identification?
  key.isSome &&
    key = ((identity.chain.head?.bind Certificate.ofBytes?).map Certificate.key)

end ClientIdentity

/-- The identity that a credential presents, if it presents one. -/
def identity (credential : Credential) : Except Failure (Option ClientIdentity) :=
  match credential with
  | .clientCertificate pem =>
    match ClientIdentity.ofPem? pem with
    | some identity => .ok (some identity)
    | none => .error invalidIdentity
  | .bearerToken _ | .bearerTokenFile _ | .basic _ _ | .missing => .ok none

/-- Checks everything that connections to the API server rest on. -/
def checkTrust (access : ClusterAccess) (skipTlsVerify : Bool) : Except Failure Unit := do
  let identity ← identity access.credential
  if !skipTlsVerify && !access.authorities.all Certificate.isAnchor then throw unusableCertificate
  if identity.any fun identity ↦ !identity.isUsable then throw unusableCertificate

end OverlayGateway.ClusterAccess
