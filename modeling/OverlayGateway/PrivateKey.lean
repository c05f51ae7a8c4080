import OverlayGateway.PrivateKey.Curve
import OverlayGateway.PrivateKey.Rsa
/-!
Private keys. A key is stored in a form of its own kind, or wrapped together with what its kind is.
From the private key follows the public one; where both are stored, they have to match.
-/

set_option autoImplicit false
set_option relaxedAutoImplicit false

namespace OverlayGateway

open Der

/-- How a private key is stored. -/
inductive PrivateKey where
  | rsa (bytes : List UInt8)
  | curve (bytes : List UInt8)
  /-- A key with its kind. -/
  | wrapped (bytes : List UInt8)
  deriving DecidableEq, Repr

namespace PrivateKey

def rsaKind : List UInt8 :=
  write identifierTag [0x2A, 0x86, 0x48, 0x86, 0xF7, 0x0D, 0x01, 0x01, 0x01] ++ write nullTag []

def curveKind (curve : Weierstrass) : List UInt8 :=
  write identifierTag [0x2A, 0x86, 0x48, 0xCE, 0x3D, 0x02, 0x01] ++
    write identifierTag curve.identifier

def edwardsKind : List UInt8 := write identifierTag [0x2B, 0x65, 0x70]

/-- What identifies a public key: its kind and its bits. -/
def identification (kind key : List UInt8) : List UInt8 := write sequenceTag kind ++ writeBits key

/-- The curves that keys may be made for. -/
def curves : List Weierstrass := [.p256, .p384]

/-- Takes a stored key for a curve: its secret and the public key. -/
def curveReader (curve : Weierstrass) : Reader (List UInt8 × List UInt8) :=
  within sequenceTag do
    if (← number) ≠ 1 then failure
    let secret ← contents octetStringTag
    let named ← optional (fieldTag 0) (contents (fieldTag 0))
    if named.any (· ≠ write identifierTag curve.identifier) then failure
    return (secret, ← within (fieldTag 1) bits)

def curveIdentification? (bytes : List UInt8) (curve : Weierstrass) : Option (List UInt8) := do
  let (secret, stored) ← (curveReader curve).whole? bytes
  let key ← curve.publicKey? secret
  if key ≠ stored then none
  return identification (curveKind curve) key

/-- A key that is wrapped together with its kind. -/
structure Wrapped where
  kind : List UInt8
  contents : List UInt8
  /-- The public key, where the wrapping has room for it. -/
  publicKey : Option (List UInt8) := none

/-- The tag of a public key in its wrapping, and an older one with bits in it. -/
def publicKeyTag : UInt8 := 0x81

def olderPublicKeyTag : UInt8 := fieldTag 1

/-- Takes the public key that wrappings of the second version end with. -/
def wrappedPublicKey : Nat → Reader (Option (List UInt8))
  | 0 => return none
  | 1 => do
    if ← isNext olderPublicKeyTag then return some (← within olderPublicKeyTag bits)
    else return some (← bitsAs publicKeyTag)
  | _ => failure

def wrappedReader : Reader Wrapped :=
  within sequenceTag do
    let version ← number
    let kind ← contents sequenceTag
    let key ← contents octetStringTag
    let _attributes ← optional (fieldTag 0) (contents (fieldTag 0))
    return { kind, contents := key, publicKey := ← wrappedPublicKey version }

def edwardsIdentification? (key : Wrapped) : Option (List UInt8) := do
  let seed ← (contents octetStringTag).whole? key.contents
  let derived ← Edwards.publicKey? seed
  if key.publicKey.any (· ≠ derived) then none
  return identification edwardsKind derived

/-- What identifies the public key of a wrapped one; only one kind comes with a public key. -/
def wrappedIdentification? (key : Wrapped) : Option (List UInt8) :=
  if key.kind = edwardsKind then edwardsIdentification? key
  else if key.publicKey.isSome then none
  else if key.kind = rsaKind then (Rsa.publicKey? key.contents).map (identification rsaKind)
  else
    (curves.find? fun curve ↦ key.kind = curveKind curve).bind (curveIdentification? key.contents)

/-- What identifies the public key of a private one, if that can be used. -/
def identification? : PrivateKey → Option (List UInt8)
  | .rsa bytes => (Rsa.publicKey? bytes).map (identification rsaKind)
  | .curve bytes => curves.findSome? (curveIdentification? bytes)
  | .wrapped bytes => (wrappedReader.whole? bytes).bind wrappedIdentification?

end PrivateKey

end OverlayGateway
