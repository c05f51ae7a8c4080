import OverlayGateway.Failure
import OverlayGateway.MappingTable
/-!
Presenting a caller to the API server. In `auth` mode whatever the caller says about impersonation
is dropped first; then come the user and the groups of the identity that its address resolves to,
and two audit headers. A value that cannot be sent is a failure, never a reason for another
identity.
-/

set_option autoImplicit false
set_option relaxedAutoImplicit false

namespace OverlayGateway.Impersonation

open Http

def userHeader : HeaderName := ⟨"impersonate-user", by decide⟩

def groupHeader : HeaderName := ⟨"impersonate-group", by decide⟩

/-- The audit header with the caller's overlay address. -/
def extraUserHeader : HeaderName := ⟨"impersonate-extra-original-user", by decide⟩

/-- The audit header with the tag of the overlay. -/
def extraGroupHeader : HeaderName := ⟨"impersonate-extra-original-group", by decide⟩

def overlayTag : String := "wireguard-peers"

/-- How the name of every impersonation header starts. -/
def headerBeginning : String := "impersonate-"

def isImpersonation (name : HeaderName) : Bool :=
  headerBeginning.toList.isPrefixOf name.text.toList

def strip (headers : Headers) : Headers := headers.eraseWhere isImpersonation

/-- The identity that an address resolves to, and whether the table has it. -/
structure Resolution where
  identity : Identity
  mapped : Bool
  deriving DecidableEq, Repr

def resolve (policy : Policy) (table : MappingTable) (address : String) : Resolution :=
  match table.get? address with
  | some identity => ⟨identity, true⟩
  | none => ⟨policy.fallback, false⟩

/-- Headers under construction, and the failure that stopped it. -/
structure Draft where
  headers : Headers
  failure : Option Failure := none
  deriving DecidableEq

/-- The failure of a text that no header can hold. -/
def unsendable : Failure :=
  .internal ("value cannot be sent as a header: " ++ HeaderValue.syntaxMessage)

/-- Sets a header, unless the draft has failed. -/
def Draft.set (draft : Draft) (name : HeaderName) (text : String) : Draft :=
  match draft.failure with
  | some _ => draft
  | none =>
    match HeaderValue.ofString? text with
    | some value => { draft with headers := draft.headers.insert name value }
    | none => { draft with failure := some unsendable }

/-- The headers of a caller with an identity; an empty user and an empty list of groups are left
out. -/
def present (identity : Identity) (address : String) (headers : Headers) : Draft :=
  let draft : Draft := ⟨headers, none⟩
  let draft := if identity.user = "" then draft else draft.set userHeader identity.user
  let draft :=
    if identity.groups = [] then draft
    else draft.set groupHeader (",".intercalate identity.groups)
  (draft.set extraUserHeader address).set extraGroupHeader overlayTag

/-- Applies the policy to the headers of a caller. -/
def apply (policy : Policy) (table : MappingTable) (address : Ip.Address) (headers : Headers) :
    Draft :=
  match policy.mode with
  | .noAuth => ⟨headers, none⟩
  | .unrecognized name => ⟨headers, some (.invalidMode name)⟩
  | .auth =>
    present (resolve policy table address.text).identity address.text (strip headers)

end OverlayGateway.Impersonation
