import OverlayGateway.Base64
import OverlayGateway.Text.Basic
import OverlayGateway.Text.Quoted
import OverlayGateway.Text.Utf8
/-!
Sections of binary data in a text, each in base64 between a line that names its kind and a line that
names it again. What stands outside the sections is passed over.
-/

set_option autoImplicit false
set_option relaxedAutoImplicit false

namespace OverlayGateway.Pem

/-- A section: its kind and its bytes. -/
structure Section where
  kind : String
  contents : List UInt8
  deriving DecidableEq, Repr

/-- Why a section is malformed. -/
inductive Fault where
  | noText (flaw : Text.Utf8Flaw)
  | noBegin
  | noEnd
  | kindsDiffer (first last : String)
  | badHeader (line : String)
  | badContents (error : Base64.DecodeError)
  deriving DecidableEq, Repr

def Fault.message : Fault → String
  | .noText flaw => "invalid utf-8 value: " ++ flaw.message
  | .noBegin => "missing BEGIN tag"
  | .noEnd => "missing END tag"
  | .kindsDiffer first last =>
    "mismatching BEGIN (\"" ++ first ++ "\") and END (\"" ++ last ++ "\") tags"
  | .badHeader line => "invalid header: " ++ line
  | .badContents error => "invalid data: " ++ error.message

def beginMark : List UInt8 := Text.utf8 "-----BEGIN "

def endMark : List UInt8 := Text.utf8 "-----END "

def dashes : List UInt8 := Text.utf8 "-----"

/-- How many bytes it takes until the end of a mark, the rest of which is awaited. A byte that is
not the awaited one is passed over together with what was met of the mark, and may itself not begin
it. -/
def seek (mark : List UInt8) : List UInt8 → List UInt8 → Option Nat
  | [], _ => some 0
  | _ :: _, [] => none
  | a :: awaited, b :: bytes => (seek mark (if b = a then awaited else mark) bytes).map (· + 1)

theorem pos_of_seek {mark awaited bytes : List UInt8} {count : Nat} (hawaited : awaited ≠ [])
    (h : seek mark awaited bytes = some count) : 0 < count ∧ 0 < bytes.length := by
  cases awaited with
  | nil => exact absurd rfl hawaited
  | cons a awaited =>
    cases bytes with
    | nil => simp [seek] at h
    | cons b bytes =>
      rw [seek] at h
      obtain ⟨rest, _, rfl⟩ := Option.map_eq_some_iff.mp h
      exact ⟨by omega, by simp⟩

/-- What stands in front of the first occurrence of a mark, and what stands behind it. -/
def cut? (mark bytes : List UInt8) : Option (List UInt8 × List UInt8) :=
  (seek mark mark bytes).map fun count ↦
    (bytes.take (count - mark.length), bytes.drop count)

theorem length_lt_of_cut? {mark bytes before after : List UInt8} (hmark : mark ≠ [])
    (h : cut? mark bytes = some (before, after)) : after.length < bytes.length := by
  obtain ⟨count, hseek, heq⟩ := Option.map_eq_some_iff.mp h
  simp only [Prod.mk.injEq] at heq
  obtain ⟨_, rfl⟩ := heq
  have hpos := pos_of_seek hmark hseek
  rw [List.length_drop]
  omega

/-- The parts of a section as they stand in the text. -/
structure Frame where
  first : List UInt8
  body : List UInt8
  last : List UInt8

def isBreak (b : UInt8) : Bool := b == 0x20 || b == 0x09 || b == 0x0A || b == 0x0D

/-- The first frame, and what follows it. -/
def frame? (bytes : List UInt8) : Option (Frame × List UInt8) := do
  let (_, rest) ← cut? beginMark bytes
  let (first, rest) ← cut? dashes rest
  let (body, rest) ← cut? endMark rest
  let (last, rest) ← cut? dashes rest
  return (⟨first, body.dropWhile isBreak, last⟩, rest.dropWhile isBreak)

theorem length_dropWhile_le (isDropped : UInt8 → Bool) (bytes : List UInt8) :
    (bytes.dropWhile isDropped).length ≤ bytes.length := by
  have h : (bytes.takeWhile isDropped ++ bytes.dropWhile isDropped).length = bytes.length := by
    rw [List.takeWhile_append_dropWhile]
  rw [List.length_append] at h
  omega

theorem length_lt_of_frame? {bytes rest : List UInt8} {frame : Frame}
    (h : frame? bytes = some (frame, rest)) : rest.length < bytes.length := by
  simp only [frame?, Option.bind_eq_bind, Option.bind_eq_some_iff, Option.pure_def,
    Option.some.injEq, Prod.mk.injEq, Prod.exists] at h
  obtain ⟨_, _, hbegin, _, _, hfirst, _, _, hend, _, last, hlast, _, rfl⟩ := h
  have hbegin := length_lt_of_cut? (by decide) hbegin
  have hfirst := length_lt_of_cut? (by decide) hfirst
  have hend := length_lt_of_cut? (by decide) hend
  have hlast := length_lt_of_cut? (by decide) hlast
  have hdropped := length_dropWhile_le isBreak last
  omega

/-- Every frame in some bytes, in order. -/
def frames (bytes : List UInt8) : List Frame :=
  match _h : frame? bytes with
  | none => []
  | some (frame, rest) => frame :: frames rest
termination_by bytes.length
decreasing_by exact length_lt_of_frame? _h

def text (bytes : List UInt8) : Except Fault String := (Text.readUtf8 bytes).mapError .noText

/-- The lines of a text without their ends. -/
def lines (s : String) : List (List Char) :=
  (Text.pieces '\n' s.toList).map fun line ↦
    if line.getLast? = some '\r' then line.dropLast else line

/-- The headers of a section, which an empty line parts from the data, and the data. -/
def splitHeaders (body : List UInt8) : List UInt8 × List UInt8 :=
  match cut? [0x0A, 0x0A] body with
  | some (headers, data) => (headers, data)
  | none => (cut? [0x0D, 0x0A, 0x0D, 0x0A] body).getD ([], body)

/-- A header has a name and a value, with a colon between them. -/
def checkHeader (line : List Char) : Except Fault Unit :=
  if line = [] ∨ line.contains ':' then .ok () else .error (.badHeader (String.ofList line))

/-- The section in a frame. -/
def Frame.read (frame : Frame) : Except Fault Section := do
  let first ← text frame.first
  if first = "" then throw .noBegin
  let last ← text frame.last
  if last = "" then throw .noEnd
  if first ≠ last then throw (.kindsDiffer first last)
  let (headers, data) := splitHeaders frame.body
  let symbols := (lines (← text data)).flatMap Text.trimEnd
  let contents ← (Base64.decode (Text.utf8 (String.ofList symbols))).mapError .badContents
  let _ ← (lines (← text headers)).mapM checkHeader
  return ⟨first, contents⟩

/-- Every section in some bytes, in order. -/
def read (bytes : List UInt8) : Except Fault (List Section) := (frames bytes).mapM Frame.read

/-- The contents of the sections of a kind. -/
def contentsOf (kinds : List String) (sections : List Section) : List (List UInt8) :=
  (sections.filter fun part ↦ kinds.contains part.kind).map Section.contents

def certificateKind : String := "CERTIFICATE"

end OverlayGateway.Pem
