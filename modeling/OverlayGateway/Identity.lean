import OverlayGateway.Json.Decode
import OverlayGateway.Json.Value
import OverlayGateway.Text.Basic
/-!
How callers are presented to the API server, and as whom. They are impersonated, or passed through
as they come; a mode name is read without regard to case and surrounding blanks, and a name that is
neither is kept as it was written. A policy says which identity a caller gets when nothing is known
about its address. As JSON an identity is a record of a user and of groups; without groups, or with
`null` for them, it has none.
-/

set_option autoImplicit false
set_option relaxedAutoImplicit false

namespace OverlayGateway

/-! ### Modes -/

inductive Mode where
  /-- Callers are impersonated with their mapped or the default identity. -/
  | auth
  /-- Requests pass without impersonation headers. -/
  | noAuth
  /-- A mode that nothing is known about; every proxied request fails. -/
  | unrecognized (name : String)
  deriving DecidableEq, Repr

namespace Mode

def parse (value : String) : Mode :=
  if Text.lower (Text.trim value) = "auth" then .auth
  else if Text.lower (Text.trim value) = "noauth" then .noAuth
  else .unrecognized value

def name : Mode → String
  | .auth => "auth"
  | .noAuth => "noauth"
  | .unrecognized name => name

end Mode

/-! ### Identities -/

/-- The user and the groups that a caller is presented as. -/
structure Identity where
  user : String
  groups : List String
  deriving DecidableEq, Repr

/-- The identity of overlay peers without an entry of their own. -/
def Identity.overlayPeer : Identity :=
  ⟨"wireguard-peer", ["system:authenticated", "wireguard-peers"]⟩

/-- How callers are presented, and as whom if their address has no mapping. -/
structure Policy where
  mode : Mode := .auth
  fallback : Identity := .overlayPeer
  deriving DecidableEq, Repr

/-! ### Documents -/

/-- The value of a field that holds one text or several. -/
inductive Texts where
  | one (text : String)
  | many (texts : List String)
  deriving DecidableEq, Repr

namespace Texts

def ofOne : Json.Decoder Texts := fun value ↦ (Json.asText value).map .one

/-- Texts in an array, none for `null`. -/
def ofMany : Json.Decoder Texts := fun value ↦
  (Json.orNull (Json.asListOf Json.asText) value).map fun texts ↦ .many (texts.getD [])

end Texts

namespace Identity

def fields : List (Json.RecordField Texts) :=
  [⟨"user", Texts.ofOne, none⟩, ⟨"groups", Texts.ofMany, some (.many [])⟩]

def decode : Json.Decoder Identity := fun value ↦ do
  match ← Json.asRecord "UserMapping" fields value with
  | [.one user, .many groups] => return ⟨user, groups⟩
  | _ => throw .malformed

/-- The identity in a JSON text. -/
def ofDocument (bytes : List UInt8) : Except Json.Fault Identity :=
  (Json.readDocument bytes).decode decode

/-- The members of an identity's document, the user first. -/
def members (identity : Identity) : List (String × Json.Value) :=
  [("user", .string identity.user), ("groups", .strings identity.groups)]

def document (identity : Identity) : Json.Value := .object identity.members

end Identity

end OverlayGateway
