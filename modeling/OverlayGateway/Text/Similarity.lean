/-!
How similar two texts are, by the characters that they share in about the same places (the measure
of Jaro). Two characters match if they are equal and their places differ by less than half the
longer length; matches in another order count half.
-/

set_option autoImplicit false
set_option relaxedAutoImplicit false

namespace OverlayGateway.Text

/-- The first place from `low` up to `high` that holds a character and is not taken. -/
def placeOf? (c : Char) (others : List Char) (taken : List Nat) (low high : Nat) : Option Nat :=
  (List.range others.length).find? fun place ↦
    low ≤ place && place ≤ high && others[place]? = some c && !taken.contains place

/-- The places at which the characters from `index` on match, those that match nothing left out. -/
def matchPlaces (others : List Char) (reach index : Nat) (taken : List Nat) :
    List Char → List (Char × Nat)
  | [] => []
  | c :: cs =>
    match placeOf? c others taken (index - reach) (index + reach) with
    | some place => (c, place) :: matchPlaces others reach (index + 1) (place :: taken) cs
    | none => matchPlaces others reach (index + 1) taken cs

/-- How often the matches of one text and those of the other one differ, place by place. -/
def outOfOrder (others : List Char) (matched : List (Char × Nat)) : Nat :=
  let sorted := (matched.map Prod.snd).mergeSort
  ((matched.map Prod.fst).zip (sorted.map fun place ↦ others[place]?)).countP
    fun (c, other) ↦ other ≠ some c

/-- The similarity of two texts, from zero up to one: the mean of the shares of matches in either
text and of matches that are in order. -/
def similarity (s t : String) : Float :=
  let a := s.toList
  let b := t.toList
  let reach := max a.length b.length / 2 - 1
  let matched := matchPlaces b reach 0 [] a
  let share (part whole : Nat) : Float := part.toFloat / whole.toFloat
  if a = [] ∧ b = [] then 1.0
  else if matched = [] then 0.0
  else
    let ordered := matched.length - outOfOrder b matched / 2
    (share matched.length a.length + share matched.length b.length +
      share ordered matched.length) / 3.0

/-- Texts are similar if their similarity is greater. -/
def similarityBound : Float := 0.7

/-- Puts a text behind those that are at most as similar. -/
def insertSimilar (found : Float × String) : List (Float × String) → List (Float × String)
  | [] => [found]
  | other :: others =>
    if found.1 < other.1 then found :: other :: others else other :: insertSimilar found others

/-- The texts that are similar to the one that was written, the most similar last. -/
def similar (written : String) (texts : List String) : List String :=
  let measured := (texts.map fun text ↦ (similarity written text, text)).filter fun found ↦
    similarityBound < found.1
  (measured.foldl (fun sorted found ↦ insertSimilar found sorted) []).map Prod.snd

end OverlayGateway.Text
