import OverlayGateway.Der
/-!
Certificates, as far as it takes to know whose key one vouches for. A certificate states one kind of
signature twice, and has no extension twice that is understood, nor a critical one that is not. As
an anchor of trust a certificate of the first version will do, which has no extensions at all.
-/

set_option autoImplicit false
set_option relaxedAutoImplicit false

namespace OverlayGateway

open Der

/-- A certificate. -/
structure Certificate where
  /-- What identifies the key: its kind and its bits. -/
  key : List UInt8
  deriving DecidableEq, Repr

namespace Certificate

/-- The beginning of the identifiers of the standard extensions, behind which each has a number. -/
def standardIdentifier : List UInt8 := [0x55, 0x1D]

/-- The number of the extension that holds bits and no sequence: what the key may be used for. -/
def usageNumber : UInt8 := 15

/-- The numbers of the extensions that are understood: usage of the key, further names of the
subject, basic constraints, constraints on names, lists of what is revoked, extended usage. -/
def understoodNumbers : List UInt8 := [usageNumber, 17, 19, 30, 31, 37]

/-- The number of an extension that is understood. -/
def understood? (identifier : List UInt8) : Option UInt8 :=
  understoodNumbers.find? fun number ↦ identifier = standardIdentifier ++ [number]

/-- Takes an extension, behind others of which some are understood. -/
def extension (seen : List UInt8) : Reader (List UInt8) :=
  within sequenceTag do
    let identifier ← contents identifierTag
    let isCritical ← flag
    let value ← contents octetStringTag
    match understood? identifier with
    | none => if isCritical then failure else return seen
    | some number =>
      let isForm := number = usageNumber ∨ ((contents sequenceTag).whole? value).isSome
      if number ∈ seen ∨ ¬isForm then failure else return number :: seen

/-- The part that is signed of a certificate of the third version. -/
def signedPart (signatureKind : List UInt8) : Reader Certificate := do
  let version ← within (fieldTag 0) number
  if version ≠ 2 then failure
  let _ ← contents integerTag
  if (← contents sequenceTag) ≠ signatureKind then failure
  let _issuer ← contents sequenceTag
  let _validity ← contents sequenceTag
  let _subject ← contents sequenceTag
  let key ← contents sequenceTag
  if (← get) ≠ [] then
    let _ ← within (fieldTag 3) (within sequenceTag (fold extension []))
  return { key }

/-- The part that is signed of a certificate of the first version. -/
def firstSignedPart (_signatureKind : List UInt8) : Reader Certificate := do
  let _serial ← contents integerTag
  let _signatureKind ← contents sequenceTag
  let _issuer ← contents sequenceTag
  let _validity ← contents sequenceTag
  let _subject ← contents sequenceTag
  return { key := ← contents sequenceTag }

/-- A certificate whose signed part is read as said, with the kind of the signature. -/
def reader (part : List UInt8 → Reader Certificate) : Reader Certificate :=
  within sequenceTag do
    let signed ← contents sequenceTag
    let signatureKind ← contents sequenceTag
    let _signature ← bits
    StateT.lift ((part signatureKind).whole? signed)

/-- The certificate in some bytes. -/
def ofBytes? (bytes : List UInt8) : Option Certificate := (reader signedPart).whole? bytes

/-- Whether some bytes are a certificate that can be an anchor of trust. -/
def isAnchor (bytes : List UInt8) : Bool :=
  (ofBytes? bytes).isSome || ((reader firstSignedPart).whole? bytes).isSome

end Certificate

end OverlayGateway
