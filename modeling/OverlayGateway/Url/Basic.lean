import OverlayGateway.Decimal.Unsigned
import OverlayGateway.Url.Host
/-!
URLs and their texts. A path that starts with a slash is a list of segments, so that going up and
down in it are operations on a list; any other path is opaque.
-/

set_option autoImplicit false
set_option relaxedAutoImplicit false

namespace OverlayGateway

namespace Url

/-- Who speaks to which host at which port; a scheme's own port is not written. -/
structure Authority where
  username : String := ""
  password : String := ""
  host : Host
  port : Option Nat := none
  deriving DecidableEq, Repr

/-- What follows the scheme. A path without an authority may bear a mark, a slash and a dot in front
of it, so that a path with an empty first segment does not look like an authority. -/
inductive Location where
  | hierarchical (authority : Authority) (segments : List String)
  | rooted (isMarked : Bool) (segments : List String)
  | opaquePath (path : String)
  deriving DecidableEq, Repr

end Url

structure Url where
  scheme : String
  location : Url.Location
  query : Option String := none
  fragment : Option String := none
  deriving DecidableEq, Repr

namespace Url

/-- The ports of the schemes whose URLs always have a host. -/
def defaultPort? (scheme : String) : Option Nat :=
  [("http", 80), ("https", 443), ("ws", 80), ("wss", 443), ("ftp", 21)].lookup scheme

/-- The scheme of files, whose URLs need no host. -/
def isFile (scheme : String) : Bool := scheme == "file"

/-- Whether a scheme is well known: a path always starts with a slash then, of either spelling. -/
def isSpecial (scheme : String) : Bool := isFile scheme || (defaultPort? scheme).isSome

/-- Segments with a slash in front of each. -/
def segmentsText (segments : List String) : String :=
  String.join (segments.map fun segment ↦ "/" ++ segment)

namespace Authority

def userinfo (authority : Authority) : String :=
  if authority.username = "" ∧ authority.password = "" then ""
  else
    authority.username ++
      (if authority.password = "" then "" else ":" ++ authority.password) ++ "@"

def text (authority : Authority) : String :=
  authority.userinfo ++ authority.host.text ++
    (match authority.port with
      | some port => ":" ++ Decimal.write port
      | none => "")

end Authority

/-- The path of a URL as it is written. -/
def pathText (url : Url) : String :=
  match url.location with
  | .hierarchical _ segments => segmentsText segments
  | .rooted _ segments => segmentsText segments
  | .opaquePath path => path

/-- What stands between the colon of the scheme and the path. -/
def Location.front : Location → String
  | .hierarchical authority _ => "//" ++ authority.text
  | .rooted true _ => "/."
  | .rooted false _ => ""
  | .opaquePath _ => ""

def text (url : Url) : String :=
  url.scheme ++ ":" ++ url.location.front ++ url.pathText ++
    (match url.query with
      | some query => "?" ++ query
      | none => "") ++
    (match url.fragment with
      | some fragment => "#" ++ fragment
      | none => "")

end Url

end OverlayGateway
