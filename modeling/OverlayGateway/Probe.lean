import OverlayGateway.File
import OverlayGateway.Json.Value
/-!
Whether the overlay agent has made its interface. The well-known names are looked up in order; only
when none of them leads to anything is the directory listed, and all interfaces with the usual name
beginnings are reported, sorted.
-/

set_option autoImplicit false
set_option relaxedAutoImplicit false

namespace OverlayGateway.Probe

/-- The well-known interface names, in order of preference. -/
def candidates : List String := ["wg0", "netmaker", "wg1", "wg2"]

/-- How the name of an overlay interface can start. -/
def beginnings : List String := ["wg", "nm-"]

/-- What was found. -/
inductive Finding where
  | nothing
  /-- The preferred well-known interface. -/
  | candidate (name : String)
  /-- Every interface whose name starts like one of the overlay's. -/
  | similar (names : List String)
  deriving DecidableEq, Repr

def looksOverlay (name : String) : Bool :=
  beginnings.any fun beginning ↦ beginning.toList.isPrefixOf name.toList

/-- The finding in a directory of interfaces. -/
def find (directory : Directory) : Finding :=
  match candidates.find? directory.holds with
  | some name => .candidate name
  | none =>
    match (directory.names.filter looksOverlay).mergeSort fun a b ↦ decide (a ≤ b) with
    | [] => .nothing
    | names => .similar names

namespace Finding

def isRunning : Finding → Bool
  | .nothing => false
  | .candidate _ | .similar _ => true

def message : Finding → String
  | .nothing => "Checking for WireGuard interfaces"
  | .candidate name => "WireGuard interface " ++ name ++ " detected"
  | .similar names => "Found WireGuard interfaces: " ++ ", ".intercalate names

/-- The members of a finding's document, in the order in which they are described. -/
def members (finding : Finding) : List (String × Json.Value) :=
  [("running", .bool finding.isRunning), ("type", .string "wireguard_interface_check")] ++
    (match finding with
      | .nothing => []
      | .candidate name => [("interface", .string name)]
      | .similar names => [("interfaces", .strings names)]) ++
    [("message", .string finding.message)]

end Finding

end OverlayGateway.Probe
