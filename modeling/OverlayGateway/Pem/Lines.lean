import OverlayGateway.Base64
import OverlayGateway.Pem
/-!
Sections of binary data, read line by line. The line that opens a section starts with the mark and
ends with five dashes, blanks aside; a line that starts with the mark and does not end so makes the
whole text unreadable, and so does a section that is not closed. Other lines outside the sections
are passed over.
-/

set_option autoImplicit false
set_option relaxedAutoImplicit false

namespace OverlayGateway.Pem

/-- A section as it stands on its lines. -/
structure Body where
  kind : List UInt8
  lines : List UInt8
  deriving DecidableEq, Repr

/-- The lines of some bytes without their ends. -/
def byteLines : List UInt8 → List (List UInt8)
  | [] => [[]]
  | b :: bytes =>
    if b = 0x0A ∨ b = 0x0D then [] :: byteLines bytes
    else
      match byteLines bytes with
      | [] => [[b]]
      | line :: rest => (b :: line) :: rest

def dash : UInt8 := 0x2D

def space : UInt8 := 0x20

/-- The kind in a line that starts with the mark: what stands in front of the dashes at the end, of
which there have to be five, however spaced. -/
def kind? (line : List UInt8) : Option (List UInt8) :=
  let ending := (line.reverse.takeWhile fun b ↦ b = dash || b = space).reverse
  if ending.count dash = dashes.length then
    some
      ((line.take (line.length - ending.length) ++ ending.takeWhile (· = space)).drop
        beginMark.length)
  else none

/-- What is read so far: the closed sections, the kind of the open one, and the lines since the last
one was closed. -/
structure Progress where
  closed : List Body := []
  current : Option (List UInt8) := none
  pending : List UInt8 := []

/-- Reads one more line. A line that opens a section inside another one takes its lines over. -/
def Progress.next? (progress : Progress) (line : List UInt8) : Option Progress :=
  if beginMark.isPrefixOf line then
    (kind? line).map fun kind ↦ { progress with current := some kind }
  else
    match progress.current with
    | none => some progress
    | some kind =>
      if (endMark ++ kind ++ dashes).isPrefixOf line then
        some { closed := progress.closed ++ [⟨kind, progress.pending⟩] }
      else some { progress with pending := progress.pending ++ line }

/-- The sections in some bytes, in order. -/
def bodies? (bytes : List UInt8) : Option (List Body) := do
  let progress ← (byteLines bytes).foldlM Progress.next? {}
  if progress.current.isSome then none else some progress.closed

end OverlayGateway.Pem
