import OverlayGateway.Ip.Parse
import OverlayGateway.Url.Domain
import OverlayGateway.Url.Percent
/-!
Hosts in URLs. A host in brackets is a version 6 address; a name whose last part is a number is a
version 4 address, in one of its many spellings; any other name is a domain.
-/

set_option autoImplicit false
set_option relaxedAutoImplicit false

namespace OverlayGateway

/-- Why a text is no URL. -/
inductive UrlError where
  | relative
  | emptyHost
  | invalidPort
  | invalidV4
  | invalidV6
  | invalidDomain
  | invalidDomainChar
  deriving DecidableEq, Repr

def UrlError.message : UrlError → String
  | .relative => "relative URL without a base"
  | .emptyHost => "empty host"
  | .invalidPort => "invalid port number"
  | .invalidV4 => "invalid IPv4 address"
  | .invalidV6 => "invalid IPv6 address"
  | .invalidDomain => "invalid international domain name"
  | .invalidDomainChar => "invalid domain character"

namespace Url

inductive Host where
  | domain (name : String)
  | v4 (address : Ip.V4)
  | v6 (address : Ip.V6)
  deriving DecidableEq, Repr

namespace Host

def text : Host → String
  | .domain name => name
  | .v4 address => address.text
  | .v6 address => "[" ++ address.groupedText ++ "]"

/-- The digits of a part of a numeric host and their base. -/
def numberParts (part : List Char) : List Char × Nat :=
  match part with
  | '0' :: 'x' :: digits | '0' :: 'X' :: digits => (digits, 16)
  | '0' :: c :: digits => (c :: digits, 8)
  | digits => (digits, 10)

/-- The number that a part of a host denotes. -/
def number? (part : List Char) : Option Nat :=
  if part = [] then none
  else
    let (digits, base) := numberParts part
    digits.foldlM
      (fun n c ↦ (Text.hexValue? c).bind fun d ↦ if d < base then some (n * base + d) else none) 0

/-- The parts of a name, an empty last one left out. -/
def nameParts (name : List Char) : List (List Char) :=
  let parts := Text.pieces '.' name
  if parts.getLast? = some [] then parts.dropLast else parts

/-- Whether a name has to be a version 4 address. -/
def endsInNumber (name : List Char) : Bool :=
  match (nameParts name).getLast? with
  | none => false
  | some last => (last ≠ [] && last.all Char.isDigit) || (number? last).isSome

/-- The version 4 address whose last part fills the bytes that the others leave. -/
def v4OfNumbers? (numbers : List Nat) : Option Ip.V4 :=
  match numbers.getLast? with
  | none => none
  | some last =>
    let front := numbers.dropLast
    if 3 < front.length ∨ 1 <<< (8 * (4 - front.length)) ≤ last ∨ front.any (255 < ·) then none
    else
      let bytes := front ++ List.replicate (4 - front.length) 0
      let value := bytes.foldl (fun n b ↦ n * 256 + b) 0 + last
      some (.ofGroups (.ofNat (value / 65536)) (.ofNat value))

/-- The address between brackets. -/
def parseBracketed (rest : List Char) : Except UrlError Host :=
  if rest.getLast? = some ']' then
    match Ip.readV6? rest.dropLast with
    | some (address, []) => .ok (.v6 address)
    | _ => .error .invalidV6
  else .error .invalidV6

/-- Characters that no host holds, whatever the scheme. -/
def isSeparator (c : Char) : Bool := "\x00\t\n\r #/:<>?@[\\]^|".toList.contains c

/-- The host of a URL whose scheme says nothing about hosts; it may be empty. -/
def parseOpaque (cs : List Char) : Except UrlError Host :=
  match cs with
  | '[' :: rest => parseBracketed rest
  | cs =>
    if cs.any isSeparator then .error .invalidDomainChar
    else .ok (.domain (String.ofList (Percent.encode Percent.isControl cs)))

/-- The host of a URL with a well-known scheme. -/
def parse (cs : List Char) : Except UrlError Host :=
  match cs with
  | [] => .error .emptyHost
  | '[' :: rest => parseBracketed rest
  | cs =>
    match Text.ofUtf8? (Percent.decode (Text.utf8 (String.ofList cs))) with
    | none => .error .invalidDomain
    | some name =>
      match Domain.ascii? name.toList with
      | none => .error .invalidDomain
      | some [] => .error .emptyHost
      | some name =>
        if endsInNumber name then
          match ((nameParts name).mapM number?).bind v4OfNumbers? with
          | some address => .ok (.v4 address)
          | none => .error .invalidV4
        else .ok (.domain (String.ofList name))

end Host

end Url

end OverlayGateway
