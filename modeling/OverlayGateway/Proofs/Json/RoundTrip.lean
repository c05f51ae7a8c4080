import OverlayGateway.Proofs.Json.Reader
import OverlayGateway.Proofs.Json.Strings
/-!
A document is read as it was written. The text of a value spells that value: its numbers, its
strings, and one after the other the items and the members in it (`spells_chars`). The reader reads
the whole text as what it spells (`readDocument_text`).
-/

set_option autoImplicit false
set_option relaxedAutoImplicit false

namespace OverlayGateway.Json

open Text

/-- A number as it is read from its digits. -/
def Numeral.ofNat (n : Nat) : Numeral where
  negative := false
  whole := (Nat.toDigits 10 n).map fun c ↦ c.toNat - '0'.toNat

namespace Value

mutual

/-- What is read from a written value. -/
def reading : Value → Reading
  | .null => .null
  | .bool value => .bool value
  | .nat n => .number (.ofNat n)
  | .string s => .string (some s)
  | .array items => .array (itemReadings items) true
  | .object members => .object (memberReadings members) true

def itemReadings : List Value → List Reading
  | [] => []
  | item :: items => item.reading :: itemReadings items

def memberReadings : List (String × Value) → List (Option String × Reading)
  | [] => []
  | (key, value) :: members => (some key, value.reading) :: memberReadings members

end

theorem itemReadings_eq_map (items : List Value) : itemReadings items = items.map reading := by
  induction items with
  | nil => rfl
  | cons item items ih => rw [itemReadings, ih, List.map_cons]

theorem memberReadings_eq_map (members : List (String × Value)) :
    memberReadings members = members.map fun member ↦ (some member.1, member.2.reading) := by
  induction members with
  | nil => rfl
  | cons member members ih => rw [memberReadings, ih, List.map_cons]

end Value

/-! ### Numbers -/

/-- The byte of a digit. -/
def digitByte (c : Char) : UInt8 := UInt8.ofNat c.toNat

section Digits

variable {n : Nat} {c : Char}

theorem digit_of_mem (h : c ∈ Nat.toDigits 10 n) :
    c.toNat < 128 ∧ digitOfByte? (digitByte c) = some (c.toNat - '0'.toNat) := by
  obtain ⟨d, hd, rfl⟩ := mem_toDigits (by decide) h
  have hdigits : ∀ m : Fin 10, m.val.digitChar.toNat < 128 ∧
      digitOfByte? (digitByte m.val.digitChar) = some (m.val.digitChar.toNat - '0'.toNat) := by
    decide
  exact hdigits ⟨d, hd⟩

theorem bytes_digits (n : Nat) : bytes (Nat.toDigits 10 n) = (Nat.toDigits 10 n).map digitByte :=
  bytes_of_ascii fun _ hc ↦ (digit_of_mem hc).1

theorem spellsDigits_toDigits (n : Nat) :
    SpellsDigits (bytes (Nat.toDigits 10 n)) (Numeral.ofNat n).whole := by
  rw [bytes_digits, Numeral.ofNat]
  refine ⟨by simp [Nat.toDigits_ne_nil], ?_⟩
  rw [List.forall₂_map_left_iff, List.forall₂_map_right_iff, List.forall₂_same]
  exact fun c hc ↦ (digit_of_mem hc).2

/-- Only zero is written with a zero in front. -/
theorem length_of_leadingZero {n : Nat} (h : (Numeral.ofNat n).whole.head? = some 0) :
    (Numeral.ofNat n).whole.length = 1 := by
  rcases Nat.eq_zero_or_pos n with rfl | hn
  · rfl
  · rw [Numeral.ofNat, List.head?_map, Option.map_eq_some_iff] at h
    obtain ⟨c, hc, hzero⟩ := h
    obtain ⟨d, hd, rfl⟩ := mem_toDigits (by decide) (List.mem_of_head? hc)
    have hdigits : ∀ m : Fin 10, m.val.digitChar.toNat - '0'.toNat = 0 → m.val.digitChar = '0' := by
      decide
    rw [hdigits ⟨d, hd⟩ hzero] at hc
    exact absurd hc (head?_toDigits (by decide) (by decide) hn)

theorem spellsNumeral_toDigits (n : Nat) :
    SpellsNumeral (bytes (Nat.toDigits 10 n)) (.ofNat n) := by
  have hparts : SpellsNumeral ([] ++ (bytes (Nat.toDigits 10 n) ++ ([] ++ []))) (.ofNat n) :=
    .parts .none (spellsDigits_toDigits n) length_of_leadingZero .none .none
  rw [List.nil_append, List.append_nil, List.append_nil] at hparts
  exact hparts

end Digits

/-! ### Values -/

section Bytes

variable (cs : List Char)

theorem bytes_brackets : bytes ('[' :: (cs ++ [']'])) = 0x5B :: (bytes cs ++ [0x5D]) := by
  rw [bytes_cons, bytes_append]
  rfl

theorem bytes_braces : bytes ('\x7b' :: (cs ++ ['\x7d'])) = 0x7B :: (bytes cs ++ [0x7D]) := by
  rw [bytes_cons, bytes_append]
  rfl

theorem bytes_comma (front : List Char) :
    bytes (front ++ ',' :: cs) = bytes front ++ 0x2C :: bytes cs := by
  rw [bytes_append, bytes_cons]
  rfl

theorem bytes_colon (front : List Char) :
    bytes (front ++ ':' :: cs) = bytes front ++ 0x3A :: bytes cs := by
  rw [bytes_append, bytes_cons]
  rfl

end Bytes

/-- A value is a text without blanks around it. -/
theorem Spells.spellsText {bytes : List UInt8} {value : Reading} (h : Spells bytes value) :
    SpellsText bytes value := by
  have hpadded := SpellsText.padded (List.forall_mem_nil _) h (List.forall_mem_nil _)
  rw [List.nil_append, List.append_nil] at hpadded
  exact hpadded

theorem spellsText_stringChars (s : String) :
    SpellsText (bytes (stringChars s)) (.string (some s)) :=
  (Spells.string (spellsString_stringChars s)).spellsText

namespace Value

mutual

/-- A written value spells the value. -/
theorem spells_chars : ∀ value : Value, Spells (bytes value.chars) value.reading
  | .null => .nullWord
  | .bool true => .trueWord
  | .bool false => .falseWord
  | .nat n => .number (spellsNumeral_toDigits n)
  | .string s => .string (spellsString_stringChars s)
  | .array [] => .emptyArray (List.forall_mem_nil _)
  | .array (item :: items) => by
    rw [chars, bytes_brackets]
    exact .array (spellsItems_itemsChars (item :: items) (List.cons_ne_nil _ _))
  | .object [] => .emptyObject (List.forall_mem_nil _)
  | .object (member :: members) => by
    rw [chars, bytes_braces]
    exact .object (spellsMembers_membersChars (member :: members) (List.cons_ne_nil _ _))

theorem spellsItems_itemsChars : ∀ items : List Value, items ≠ [] →
    SpellsItems (bytes (itemsChars items)) (itemReadings items)
  | [], hne => absurd rfl hne
  | [item], _ => .last (spells_chars item).spellsText
  | item :: next :: items, _ => by
    have hchars : itemsChars (item :: next :: items) =
        item.chars ++ ',' :: itemsChars (next :: items) := rfl
    rw [hchars, bytes_comma]
    exact .more (spells_chars item).spellsText
      (spellsItems_itemsChars (next :: items) (List.cons_ne_nil _ _))

theorem spellsMembers_membersChars : ∀ members : List (String × Value), members ≠ [] →
    SpellsMembers (bytes (membersChars members)) (memberReadings members)
  | [], hne => absurd rfl hne
  | [(key, value)], _ => by
    rw [membersChars, bytes_colon]
    exact .last (spellsText_stringChars key) (spells_chars value).spellsText
  | (key, value) :: next :: members, _ => by
    have hchars : membersChars ((key, value) :: next :: members) =
        stringChars key ++ ':' :: (value.chars ++ ',' :: membersChars (next :: members)) := rfl
    rw [hchars, bytes_colon, bytes_comma]
    exact .more (spellsText_stringChars key) (spells_chars value).spellsText
      (spellsMembers_membersChars (next :: members) (List.cons_ne_nil _ _))

end

/-- The text of a value spells the value. -/
theorem spells_text (value : Value) : Spells (utf8 value.text) value.reading := by
  rw [utf8_eq_bytes, text, String.toList_ofList]
  exact spells_chars value

/-- The text of a value is read as that value, and nothing is left over. -/
theorem readDocument_text (value : Value) :
    readDocument (utf8 value.text) = ⟨value.reading, true⟩ :=
  (readDocument_iff.2 (spells_text value).spellsText).1

end Value

end OverlayGateway.Json
