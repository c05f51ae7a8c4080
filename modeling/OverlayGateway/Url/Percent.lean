import OverlayGateway.Text.Basic
import OverlayGateway.Text.Utf8
/-!
Percent-encoding. Each part of a URL has a set of characters that may not stand in it; such a
character is written as the bytes of its encoding, every byte as a percent sign and two digits of
base 16. Decoding leaves a percent sign without two such digits as it is.
-/

set_option autoImplicit false
set_option relaxedAutoImplicit false

namespace OverlayGateway.Percent

/-- Controls and everything beyond ASCII, which no part of a URL holds. -/
def isControl (c : Char) : Bool := c.toNat < 0x20 || 0x7E < c.toNat

def inFragment (c : Char) : Bool := isControl c || " \"<>`".toList.contains c

def inQuery (c : Char) : Bool := isControl c || " \"#<>".toList.contains c

/-- The set for the query of a URL with a well-known scheme. -/
def inSpecialQuery (c : Char) : Bool := inQuery c || c = '\''

def inPath (c : Char) : Bool := inFragment c || "#?\x7b\x7d".toList.contains c

def inUserinfo (c : Char) : Bool := inPath c || "/:;=@[\\]^|".toList.contains c

/-- A digit of base 16 in upper case, for values below 16. -/
def digit (n : Nat) : Char := (Text.hexDigit n).toUpper

def encodeByte (b : UInt8) : List Char := ['%', digit (b.toNat / 16), digit (b.toNat % 16)]

def encodeChar (isEncoded : Char → Bool) (c : Char) : List Char :=
  if isEncoded c then (String.utf8EncodeChar c).flatMap encodeByte else [c]

def encode (isEncoded : Char → Bool) (cs : List Char) : List Char :=
  cs.flatMap (encodeChar isEncoded)

/-- The value of a byte as a hexadecimal digit. -/
def hexOf? (b : UInt8) : Option Nat := Text.hexValue? (Char.ofNat b.toNat)

/-- Decodes bytes; fewer than three at the end stand for themselves. -/
def decode : List UInt8 → List UInt8
  | a :: b :: c :: rest =>
    if a = 0x25 then
      match hexOf? b, hexOf? c with
      | some high, some low => UInt8.ofNat (high * 16 + low) :: decode rest
      | _, _ => a :: decode (b :: c :: rest)
    else a :: decode (b :: c :: rest)
  | bytes => bytes

/-- The bytes that an encoded text stands for. -/
def decodeText (s : String) : List UInt8 := decode (Text.utf8 s)

end OverlayGateway.Percent
