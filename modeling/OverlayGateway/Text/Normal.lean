import OverlayGateway.Text.Normal.Table
/-!
The composed form of a text. Characters that can be taken apart and put together have many
spellings; to compose a text is to take all of it apart, to put the marks behind each character in
the order of their classes, and to put together whatever makes up one character.
-/

set_option autoImplicit false
set_option relaxedAutoImplicit false

namespace OverlayGateway.Text.Normal

/-- The class of a mark; other characters are of class 0. -/
def classOf (c : Char) : Nat := (classes.value? c).getD 0

namespace Hangul

def syllables : Nat := 0xAC00

def leads : Nat := 0x1100

def vowels : Nat := 0x1161

/-- One before the first trailing consonant, for the syllables without one. -/
def trails : Nat := 0x11A7

def leadCount : Nat := 19

def vowelCount : Nat := 21

def trailCount : Nat := 28

/-- The letters of a syllable. -/
def letters? (c : Char) : Option (List Char) :=
  let n := c.toNat - syllables
  if syllables ≤ c.toNat ∧ n < leadCount * vowelCount * trailCount then
    let lead := Char.ofNat (leads + n / (vowelCount * trailCount))
    let vowel := Char.ofNat (vowels + n / trailCount % vowelCount)
    some (if n % trailCount = 0 then [lead, vowel]
      else [lead, vowel, Char.ofNat (trails + n % trailCount)])
  else none

/-- The syllable that two letters make up, or a syllable and a letter behind it. -/
def compose? (first second : Char) : Option Char :=
  let lead := first.toNat - leads
  let vowel := second.toNat - vowels
  let open? := first.toNat - syllables
  let trail := second.toNat - trails
  if leads ≤ first.toNat ∧ lead < leadCount ∧ vowels ≤ second.toNat ∧ vowel < vowelCount then
    some (Char.ofNat (syllables + (lead * vowelCount + vowel) * trailCount))
  else if syllables ≤ first.toNat ∧ open? < leadCount * vowelCount * trailCount ∧
      open? % trailCount = 0 ∧ trails < second.toNat ∧ trail < trailCount then
    some (Char.ofNat (first.toNat + trail))
  else none

end Hangul

/-- The characters that one stands for. -/
def apart (c : Char) : List Char :=
  match Hangul.letters? c with
  | some letters => letters
  | none => (parts.row? c.toNat).elim [c] fun row ↦ row.values.map Char.ofNat

/-- Puts a mark behind all those of its class and of lower ones. -/
def insertMark (mark : Char) : List Char → List Char
  | [] => [mark]
  | c :: cs =>
    if classOf mark < classOf c then mark :: c :: cs else c :: insertMark mark cs

/-- Puts the marks of each character in order; `pending` holds those that were just read. -/
def orderFrom (pending : List Char) : List Char → List Char
  | [] => pending
  | c :: cs =>
    if classOf c = 0 then pending ++ c :: orderFrom [] cs
    else orderFrom (insertMark c pending) cs

/-- The text taken apart, its marks in order. -/
def decompose (cs : List Char) : List Char := orderFrom [] (cs.flatMap apart)

def partner? (second : Char) : List Nat → Option Char
  | n :: composed :: rest =>
    if second.toNat = n then some (Char.ofNat composed) else partner? second rest
  | _ => none

/-- The one character that two make up. -/
def pair? (first second : Char) : Option Char :=
  (Hangul.compose? first second).or
    ((pairs.row? first.toNat).bind fun row ↦ partner? second row.values)

/-- Puts characters together. `base` is the last character of class 0, `marks` are those behind it
that it could not take up. A character is out of its reach behind one of its own class, or behind
any mark if it is itself of class 0. -/
def composeFrom (base : Char) (marks : List Char) : List Char → List Char
  | [] => base :: marks
  | c :: cs =>
    let isReached := marks.all fun mark ↦ classOf mark < classOf c
    match if isReached then pair? base c else none with
    | some composed => composeFrom composed marks cs
    | none =>
      if classOf c = 0 then base :: marks ++ composeFrom c [] cs
      else composeFrom base (marks ++ [c]) cs

/-- The composed form of a text. -/
def compose (cs : List Char) : List Char :=
  let ordered := decompose cs
  let leading := ordered.takeWhile fun c ↦ classOf c ≠ 0
  match ordered.dropWhile fun c ↦ classOf c ≠ 0 with
  | [] => leading
  | base :: rest => leading ++ composeFrom base [] rest

end OverlayGateway.Text.Normal
