import OverlayGateway.Decimal.Unsigned
/-!
Internet addresses of both families and their texts. Version 4 is written in dotted decimal.
Version 6 is written in lower-case hexadecimal groups without leading zeros, with the first of the
longest runs of two or more zero groups left out; an address that maps one of version 4 shows that
one in dotted form.
-/

set_option autoImplicit false
set_option relaxedAutoImplicit false

namespace OverlayGateway.Ip

/-- An address of version 4, most significant byte first. -/
structure V4 where
  a : UInt8
  b : UInt8
  c : UInt8
  d : UInt8
  deriving DecidableEq, Repr

/-- An address of version 6: eight groups of 16 bits. -/
structure V6 where
  groups : Vector UInt16 8
  deriving DecidableEq, Repr

inductive Address where
  | v4 (address : V4)
  | v6 (address : V6)
  deriving DecidableEq, Repr

namespace V4

def unspecified : V4 := ⟨0, 0, 0, 0⟩

def isLoopback (address : V4) : Bool := address.a == 127

def isUnspecified (address : V4) : Bool := address == unspecified

def text (address : V4) : String :=
  ".".intercalate
    ([address.a, address.b, address.c, address.d].map fun octet ↦ Decimal.write octet.toNat)

/-- The last two groups of a version 6 address that ends in this one. -/
def highGroup (address : V4) : UInt16 := address.a.toUInt16 <<< 8 ||| address.b.toUInt16

@[inherit_doc highGroup]
def lowGroup (address : V4) : UInt16 := address.c.toUInt16 <<< 8 ||| address.d.toUInt16

end V4

/-- The version 4 address whose bytes are those of two groups. -/
def V4.ofGroups (high low : UInt16) : V4 :=
  ⟨(high >>> 8).toUInt8, high.toUInt8, (low >>> 8).toUInt8, low.toUInt8⟩

/-- Where the first of the longest runs of zero groups starts, and how long it is. -/
def longestZeros : List UInt16 → Nat × Nat
  | [] => (0, 0)
  | group :: groups =>
    let here := ((group :: groups).takeWhile (· == 0)).length
    let (start, length) := longestZeros groups
    if length ≤ here then (0, here) else (start + 1, length)

/-- Groups with a colon between neighbours. -/
def groupsText (groups : List UInt16) : String :=
  ":".intercalate (groups.map fun group ↦ String.ofList (Nat.toDigits 16 group.toNat))

namespace V6

/-- The version 4 address that this one maps. -/
def mapped? (address : V6) : Option V4 :=
  match address.groups.toList with
  | [0, 0, 0, 0, 0, 0xFFFF, high, low] => some (.ofGroups high low)
  | _ => none

/-- The groups with the first of the longest runs of two or more zeros left out. -/
def groupedText (address : V6) : String :=
  let groups := address.groups.toList
  let (start, length) := longestZeros groups
  if 1 < length then
    groupsText (groups.take start) ++ "::" ++ groupsText (groups.drop (start + length))
  else groupsText groups

def text (address : V6) : String :=
  match address.mapped? with
  | some v4 => "::ffff:" ++ v4.text
  | none => address.groupedText

end V6

namespace Address

def text : Address → String
  | .v4 address => address.text
  | .v6 address => address.text

/-- A mapped address stands for the version 4 address that it maps. -/
def canonical : Address → Address
  | .v4 address => .v4 address
  | .v6 address =>
    match address.mapped? with
    | some inner => .v4 inner
    | none => .v6 address

end Address

/-- Where a listener binds and a peer connects from. -/
structure Socket where
  address : Address
  port : UInt16
  deriving DecidableEq, Repr

namespace Socket

def text (socket : Socket) : String :=
  match socket.address with
  | .v4 address => address.text ++ ":" ++ Decimal.write socket.port.toNat
  | .v6 address => "[" ++ address.text ++ "]:" ++ Decimal.write socket.port.toNat

end Socket

end OverlayGateway.Ip
