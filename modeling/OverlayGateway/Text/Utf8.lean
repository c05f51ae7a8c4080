import OverlayGateway.Decimal.Unsigned
/-!
Texts as bytes. Every text has one encoding; a list of bytes that encodes no text decodes to
nothing, and its flaw is the first place where no character can stand.
-/

set_option autoImplicit false
set_option relaxedAutoImplicit false

namespace OverlayGateway.Text

/-- The encoding of a text. -/
def utf8 (s : String) : List UInt8 := s.toList.flatMap String.utf8EncodeChar

/-- The text that some bytes encode. -/
def ofUtf8? (bytes : List UInt8) : Option String := String.fromUTF8? bytes.toByteArray

/-- Where bytes stop to be the encoding of a text, and how many of them belong to no character
there; nothing if only the end of a character is missing. -/
structure Utf8Flaw where
  position : Nat
  length : Option Nat
  deriving DecidableEq, Repr

def Utf8Flaw.message (flaw : Utf8Flaw) : String :=
  (match flaw.length with
    | some length => "invalid utf-8 sequence of " ++ Decimal.write length ++ " bytes"
    | none => "incomplete utf-8 byte sequence") ++
    " from index " ++ Decimal.write flaw.position

/-- The bounds of the bytes that have to follow the first byte of a character. -/
def followers? (first : UInt8) : Option (List (UInt8 × UInt8)) :=
  let tail : UInt8 × UInt8 := (0x80, 0xBF)
  if first < 0x80 then some []
  else if first < 0xC2 then none
  else if first < 0xE0 then some [tail]
  else if first = 0xE0 then some [(0xA0, 0xBF), tail]
  else if first = 0xED then some [(0x80, 0x9F), tail]
  else if first < 0xF0 then some [tail, tail]
  else if first = 0xF0 then some [(0x90, 0xBF), tail, tail]
  else if first < 0xF4 then some [tail, tail, tail]
  else if first = 0xF4 then some [(0x80, 0x8F), tail, tail]
  else none

/-- The flaw of some bytes behind a character of which `seen` bytes are read and others are
awaited. -/
def flawFrom (position seen : Nat) (awaited : List (UInt8 × UInt8)) :
    List UInt8 → Option Utf8Flaw
  | [] => if awaited = [] then none else some ⟨position, none⟩
  | b :: bytes =>
    match awaited with
    | [] =>
      match followers? b with
      | some followers => flawFrom (position + seen) 1 followers bytes
      | none => some ⟨position + seen, some 1⟩
    | (low, high) :: awaited =>
      if low ≤ b ∧ b ≤ high then flawFrom position (seen + 1) awaited bytes
      else some ⟨position, some seen⟩

/-- The text that some bytes encode, or why they do not encode one. -/
def readUtf8 (bytes : List UInt8) : Except Utf8Flaw String :=
  match ofUtf8? bytes with
  | some text => .ok text
  | none => .error ((flawFrom 0 0 [] bytes).getD ⟨0, none⟩)

/-- What stands for a flaw in a text that is shown nevertheless. -/
def replacement : String := "\uFFFD"

/-- The text of some bytes with the replacement for each of their flaws; `fuel` bounds the number of
flaws. -/
def repaired : Nat → List UInt8 → String
  | 0, _ => ""
  | fuel + 1, bytes =>
    match flawFrom 0 0 [] bytes with
    | none => (ofUtf8? bytes).getD ""
    | some flaw =>
      (ofUtf8? (bytes.take flaw.position)).getD "" ++ replacement ++
        match flaw.length with
        | none => ""
        | some length => repaired fuel (bytes.drop (flaw.position + length))

/-- The text of any bytes. -/
def lossy (bytes : List UInt8) : String := repaired (bytes.length + 1) bytes

example : lossy [0x61, 0xFF, 0xE2, 0x82, 0x62, 0xF0, 0x9F] = "a\uFFFD\uFFFDb\uFFFD" := by decide

@[simp] theorem utf8_append (s t : String) : utf8 (s ++ t) = utf8 s ++ utf8 t := by
  simp [utf8]

theorem toByteArray_utf8 (s : String) : (utf8 s).toByteArray = s.toByteArray :=
  String.utf8Encode_toList

theorem ofUtf8?_utf8 (s : String) : ofUtf8? (utf8 s) = some s := by
  rw [ofUtf8?, toByteArray_utf8, String.fromUTF8?, dif_pos s.isValidUTF8]
  rfl

/-- Bytes encode at most one text. -/
theorem eq_utf8_of_ofUtf8? {bytes : List UInt8} {s : String} (h : ofUtf8? bytes = some s) :
    bytes = utf8 s := by
  unfold ofUtf8? String.fromUTF8? at h
  split at h
  · rename_i hvalid
    cases h
    have hbytes : (utf8 (.fromUTF8 bytes.toByteArray hvalid)).toByteArray = bytes.toByteArray :=
      toByteArray_utf8 _
    exact (List.toByteArray_inj.1 hbytes).symm
  · cases h

theorem utf8_injective {s t : String} (h : utf8 s = utf8 t) : s = t := by
  have hread : ofUtf8? (utf8 s) = ofUtf8? (utf8 t) := congrArg ofUtf8? h
  rw [ofUtf8?_utf8, ofUtf8?_utf8] at hread
  exact Option.some.inj hread

end OverlayGateway.Text
