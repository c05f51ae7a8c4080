import OverlayGateway.Credential
import OverlayGateway.Kubeconfig
import OverlayGateway.Log
/-!
The credential in a user entry of a kubeconfig. Of several the first one counts, in the order token,
token file, client certificate, name with password; a later one is not even looked at. A client
certificate takes a certificate and a key, each in the entry itself or in a file.
-/

set_option autoImplicit false
set_option relaxedAutoImplicit false

namespace OverlayGateway

open Kubeconfig

/-- A text that is there and not empty. -/
def filled (text : Option String) : Option String := text.filter (· ≠ "")

/-- The bytes of a material, of which data in the entry goes before a file; nothing if both are
missing. -/
def Material.read {m : Type → Type} [Monad m] (files : FileReader m) (what : String)
    (material : Material) : m (Except Failure (Option (List UInt8))) := do
  match filled material.data with
  | some data =>
    match Base64.decode (Text.utf8 (Text.trim data)) with
    | .ok bytes => return .ok (some bytes)
    | .error error =>
      return .error (.configuration ("invalid base64 " ++ what ++ " data: " ++ error.message))
  | none =>
    match filled material.path with
    | none => return .ok none
    | some path =>
      match ← files path with
      | .ok bytes => return .ok (some bytes)
      | .error error =>
        return .error
          (.configuration ("failed to read " ++ what ++ " " ++ path ++ ": " ++ error.message))

namespace Credential

/-- A certificate and its key in one text, on lines of their own. -/
def identity (certificate key : List UInt8) : List UInt8 :=
  certificate ++ (if certificate.getLast? = some 0x0A then [] else [0x0A]) ++ key

def halfIdentityEvent : Log.Event :=
  Log.warn "Client certificate and key must both be set, ignoring the one provided" []

def pluginEvent : Log.Event :=
  Log.warn "Kubeconfig exec and auth-provider plugins are not supported" []

/-- A name with a password, if both are there. -/
def basicOf? (user : User) : Option Credential := do
  return .basic (← filled user.username) (← filled user.password)

/-- The credential that is left when there is no client certificate, and the events about it. -/
def withoutCertificate (user : User) : Credential × List Log.Event :=
  match basicOf? user with
  | some credential => (credential, [])
  | none => (.missing, if user.usesPlugin then [pluginEvent] else [])

/-- The credential for the certificate and the key of a user. -/
def ofParts (user : User) : Option (List UInt8) → Option (List UInt8) → Credential × List Log.Event
  | some certificate, some key => (.clientCertificate (identity certificate key), [])
  | none, none => withoutCertificate user
  | _, _ =>
    let (credential, log) := withoutCertificate user
    (credential, halfIdentityEvent :: log)

/-- The credential of a user, and the events about what is ignored. -/
def ofUser {m : Type → Type} [Monad m] (files : FileReader m) (user : User) :
    m (Except Failure (Credential × List Log.Event)) := do
  match filled user.token, filled user.tokenFile with
  | some token, _ => return .ok (.bearerToken token, [])
  | none, some path => return .ok (.bearerTokenFile path, [])
  | none, none =>
    match ← user.certificate.read files "client certificate" with
    | .error failure => return .error failure
    | .ok certificate =>
      match ← user.key.read files "client key" with
      | .error failure => return .error failure
      | .ok key => return .ok (ofParts user certificate key)

end Credential

end OverlayGateway
