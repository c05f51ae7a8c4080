import OverlayGateway.Ip.Address
/-!
Where the gateway listens: at an address that is set explicitly, else at the overlay address, else
at every address of the host.
-/

set_option autoImplicit false
set_option relaxedAutoImplicit false

namespace OverlayGateway.Listener

def defaultProxyPort : UInt16 := 8085

def defaultManagementPort : UInt16 := 8086

/-- The address to listen at. -/
def socket (explicit : Option Ip.Address) (overlay : Option Ip.V4) (port : UInt16) : Ip.Socket :=
  ⟨(explicit.or (overlay.map .v4)).getD (.v4 .unspecified), port⟩

/-- Whether a listener at the first address takes the connections to the second one. The unspecified
address of a version stands for every address of it, that of version 6 for those of both. -/
def covers (listening wanted : Ip.Address) : Bool :=
  listening = wanted ||
    match listening, wanted with
    | .v4 address, .v4 _ => address.isUnspecified
    | .v4 _, .v6 _ => false
    | .v6 address, _ => address.groups.all (· == 0)

/-- Whether two sockets get in each other's way: one port, and an address in common. A port that the
host chooses is always a new one. -/
def conflict (socket other : Ip.Socket) : Bool :=
  socket.port ≠ 0 && socket.port = other.port &&
    (covers socket.address other.address || covers other.address socket.address)

/-- The cause of a failure to bind a socket that something else listens at. -/
def inUse : String := "Address already in use (os error 98)"

end OverlayGateway.Listener
