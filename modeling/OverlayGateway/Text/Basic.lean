/-!
Texts character by character. Only the letters A to Z have a small form here; every other character
stands for itself. Blanks are the characters with Unicode's `White_Space` property: trimming drops
the longest run of them at either end of a text and keeps everything between. A text is cut at a
separator into one piece more than there are separators, so the empty text has one empty piece, and
the pieces are put together again with the separator between them.
-/

set_option autoImplicit false
set_option relaxedAutoImplicit false

namespace OverlayGateway.Text

/-! ### ASCII -/

/-- The text with its ASCII capitals made small. -/
def lower (s : String) : String := String.ofList (s.toList.map Char.toLower)

@[simp] theorem toList_lower (s : String) : (lower s).toList = s.toList.map Char.toLower := by
  simp [lower]

/-- A digit of base 16 in lower case, for values below 16. -/
def hexDigit (n : Nat) : Char := Nat.digitChar n

/-- The value of a digit of base 16 in either case. -/
def hexValue? (c : Char) : Option Nat :=
  if '0' ≤ c ∧ c ≤ '9' then some (c.toNat - '0'.toNat)
  else if 'a' ≤ c ∧ c ≤ 'f' then some (c.toNat - 'a'.toNat + 10)
  else if 'A' ≤ c ∧ c ≤ 'F' then some (c.toNat - 'A'.toNat + 10)
  else none

/-! ### Blanks -/

/-- The `White_Space` property, by code point. -/
def isBlank (c : Char) : Bool :=
  (0x09 ≤ c.toNat && c.toNat ≤ 0x0D) || c.toNat == 0x20 || c.toNat == 0x85 || c.toNat == 0xA0 ||
    c.toNat == 0x1680 || (0x2000 ≤ c.toNat && c.toNat ≤ 0x200A) || c.toNat == 0x2028 ||
    c.toNat == 0x2029 || c.toNat == 0x202F || c.toNat == 0x205F || c.toNat == 0x3000

def trimStart (cs : List Char) : List Char := cs.dropWhile isBlank

def trimEnd (cs : List Char) : List Char := (cs.reverse.dropWhile isBlank).reverse

def trimChars (cs : List Char) : List Char := trimEnd (trimStart cs)

/-- The text without the blanks at its two ends. -/
def trim (s : String) : String := String.ofList (trimChars s.toList)

/-- Whether there is nothing but blanks, as in the empty text. -/
def isBlankText (s : String) : Bool := s.toList.all isBlank

@[simp] theorem trimStart_nil : trimStart [] = [] := rfl

theorem trimStart_cons (c : Char) (cs : List Char) :
    trimStart (c :: cs) = if isBlank c then trimStart cs else c :: cs := by
  cases h : isBlank c <;> simp [trimStart, h]

@[simp] theorem toList_trim (s : String) : (trim s).toList = trimChars s.toList := by
  simp [trim]

theorem mem_of_mem_trimChars {c : Char} {cs : List Char} (h : c ∈ trimChars cs) : c ∈ cs := by
  rw [trimChars, trimEnd, List.mem_reverse] at h
  have hstart : c ∈ trimStart cs := List.mem_reverse.1 ((List.dropWhile_suffix _).subset h)
  exact (List.dropWhile_suffix _).subset hstart

theorem trimChars_of_forall {cs : List Char} (h : ∀ c ∈ cs, isBlank c = false) :
    trimChars cs = cs := by
  have hdrop {cs : List Char} (h : ∀ c ∈ cs, isBlank c = false) : cs.dropWhile isBlank = cs := by
    cases cs with
    | nil => rfl
    | cons c cs => exact List.dropWhile_cons_of_neg (by simp [h c List.mem_cons_self])
  rw [trimChars, trimStart, hdrop h, trimEnd, hdrop fun c hc ↦ h c (List.mem_reverse.1 hc),
    List.reverse_reverse]

/-! ### Pieces -/

/-- The pieces between the characters that are separators. -/
def piecesWhere (isSep : Char → Bool) : List Char → List (List Char)
  | [] => [[]]
  | c :: cs =>
    if isSep c then [] :: piecesWhere isSep cs
    else
      match piecesWhere isSep cs with
      | [] => [[c]]
      | piece :: rest => (c :: piece) :: rest

def pieces (sep : Char) (cs : List Char) : List (List Char) := piecesWhere (· == sep) cs

/-- The pieces of a text between occurrences of `sep`, in order. -/
def split (sep : Char) (s : String) : List String := (pieces sep s.toList).map String.ofList

/-- The texts in order with `sep` between neighbours. -/
def join (sep : String) (parts : List String) : String := sep.intercalate parts

/-- What stands before and after the first `sep`, if there is one. -/
def cutAt (sep : Char) : List Char → Option (List Char × List Char)
  | [] => none
  | c :: cs =>
    if c = sep then some ([], cs)
    else (cutAt sep cs).map fun (before, after) ↦ (c :: before, after)

theorem piecesWhere_ne_nil (isSep : Char → Bool) (cs : List Char) : piecesWhere isSep cs ≠ [] := by
  cases cs with
  | nil => simp [piecesWhere]
  | cons c cs =>
    rw [piecesWhere]
    split
    · simp
    · split <;> simp

theorem length_piecesWhere (isSep : Char → Bool) (cs : List Char) :
    (piecesWhere isSep cs).length = cs.countP isSep + 1 := by
  induction cs with
  | nil => rfl
  | cons c cs ih =>
    rw [piecesWhere]
    split
    · rename_i h
      simp [ih, h]
    · rename_i h
      split
      · rename_i hnil
        exact absurd hnil (piecesWhere_ne_nil isSep cs)
      · rename_i piece rest hcons
        rw [hcons] at ih
        simpa [h] using ih

end OverlayGateway.Text
