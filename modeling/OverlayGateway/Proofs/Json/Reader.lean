import Mathlib.Data.List.DropRight
import OverlayGateway.Proofs.Json.Grammar
/-!
The reader reads the grammar. Whatever the grammar spells is read as that value, up to what cannot
belong to it (`SpellsText.readValue`), and whatever is read with all its brackets closed is spelled
by the bytes that were read (`readsAsSpelled`). So a text is read without remainder exactly if it is
one (`readDocument_iff`).

A value is given up where the bytes go wrong, and then nothing is left to read. What is around it
stays open for that reason, so an outermost bracket that is closed vouches for everything inside.
-/

set_option autoImplicit false
set_option relaxedAutoImplicit false

namespace OverlayGateway.Json

/-! ### Blanks -/

section Blanks

variable {blanks bytes rest : List UInt8}

theorem skipBlanks_append (h : AreBlank blanks) (rest : List UInt8) :
    skipBlanks (blanks ++ rest) = skipBlanks rest :=
  List.dropWhile_append_of_pos h

theorem skipBlanks_skipBlanks (bytes : List UInt8) :
    skipBlanks (skipBlanks bytes) = skipBlanks bytes :=
  List.dropWhile_idempotent _ _

theorem skipBlanks_cons {b : UInt8} (h : isBlankByte b = false) (rest : List UInt8) :
    skipBlanks (b :: rest) = b :: rest :=
  List.dropWhile_cons_of_neg (by rw [h]; exact Bool.false_ne_true)

theorem exists_areBlank (bytes : List UInt8) :
    ∃ blanks, AreBlank blanks ∧ bytes = blanks ++ skipBlanks bytes :=
  ⟨bytes.takeWhile isBlankByte, fun b hb ↦ List.all_eq_true.1 List.all_takeWhile b hb,
    List.takeWhile_append_dropWhile.symm⟩

theorem areBlank_of_skipBlanks (h : skipBlanks bytes = []) : AreBlank bytes := by
  obtain ⟨blanks, hblanks, hbytes⟩ := exists_areBlank bytes
  rw [h, List.append_nil] at hbytes
  exact hbytes ▸ hblanks

theorem readValue_skipBlanks (fuel : Nat) (bytes : List UInt8) :
    readValue fuel (skipBlanks bytes) = readValue fuel bytes := by
  cases fuel with
  | zero => rfl
  | succ fuel => rw [readValue, readValue, skipBlanks_skipBlanks]

theorem readItems_skipBlanks (fuel : Nat) (read : List Reading) (bytes : List UInt8) :
    readItems fuel read (skipBlanks bytes) = readItems fuel read bytes := by
  cases fuel with
  | zero => rfl
  | succ fuel => rw [readItems, readItems, readValue_skipBlanks]

theorem readMembers_skipBlanks (fuel : Nat) (read : List (Option String × Reading))
    (bytes : List UInt8) :
    readMembers fuel read (skipBlanks bytes) = readMembers fuel read bytes := by
  cases fuel with
  | zero => rfl
  | succ fuel => rw [readMembers, readMembers, skipBlanks_skipBlanks]

end Blanks

/-! ### The first byte of a value -/

/-- Bytes begin like a value: not with a blank, and not with the end of an array. -/
def Begins (bytes : List UInt8) : Prop :=
  ∃ first tail, bytes = first :: tail ∧ isBlankByte first = false ∧ first ≠ 0x5D

/-- The bytes that a numeral can start with. -/
def StartsNumeral (b : UInt8) : Prop := isDigitByte b = true ∨ b = 0x2D

section Begins

variable {bytes : List UInt8}

theorem StartsNumeral.ne {first other : UInt8} (hfirst : StartsNumeral first)
    (hother : isDigitByte other = false) (hminus : other ≠ 0x2D) : first ≠ other := by
  rcases hfirst with hdigit | rfl
  · exact ne_of_isDigitByte hdigit hother
  · exact hminus.symm

theorem StartsNumeral.isBlankByte {first : UInt8} (h : StartsNumeral first) :
    isBlankByte first = false := by
  have hspace : first ≠ 0x20 := h.ne rfl (by decide)
  have hline : first ≠ 0x0A := h.ne rfl (by decide)
  have hreturn : first ≠ 0x0D := h.ne rfl (by decide)
  have htab : first ≠ 0x09 := h.ne rfl (by decide)
  simp [Json.isBlankByte, hspace, hline, hreturn, htab]

theorem SpellsNumeral.exists_first {numeral : Numeral} (h : SpellsNumeral bytes numeral) :
    ∃ first tail, bytes = first :: tail ∧ StartsNumeral first := by
  cases h with
  | parts hsign hwhole _ _ _ =>
    obtain ⟨first, tail, rfl, hfirst⟩ := hwhole.exists_first
    generalize numeral.negative = negative at hsign
    cases hsign with
    | none => exact ⟨first, _, rfl, Or.inl hfirst⟩
    | minus => exact ⟨0x2D, _, rfl, Or.inr rfl⟩

theorem Spells.begins {value : Reading} (h : Spells bytes value) : Begins bytes := by
  cases h with
  | nullWord => exact ⟨0x6E, _, rfl, rfl, by decide⟩
  | trueWord => exact ⟨0x74, _, rfl, rfl, by decide⟩
  | falseWord => exact ⟨0x66, _, rfl, rfl, by decide⟩
  | number h =>
    obtain ⟨first, tail, rfl, hfirst⟩ := h.exists_first
    exact ⟨first, tail, rfl, hfirst.isBlankByte, hfirst.ne rfl (by decide)⟩
  | string h =>
    cases h with
    | quoted _ => exact ⟨0x22, _, rfl, rfl, by decide⟩
  | emptyArray _ => exact ⟨0x5B, _, rfl, rfl, by decide⟩
  | array _ => exact ⟨0x5B, _, rfl, rfl, by decide⟩
  | emptyObject _ => exact ⟨0x7B, _, rfl, rfl, by decide⟩
  | object _ => exact ⟨0x7B, _, rfl, rfl, by decide⟩

theorem SpellsText.not_closed {value : Reading} (h : SpellsText bytes value)
    (rest tail : List UInt8) : skipBlanks (bytes ++ rest) ≠ 0x5D :: tail := by
  cases h with
  | padded hbefore h _ =>
    obtain ⟨first, after, rfl, hblank, hfirst⟩ := h.begins
    rw [List.append_assoc, skipBlanks_append hbefore, List.append_assoc, List.cons_append,
      skipBlanks_cons hblank]
    exact fun h ↦ hfirst (List.cons.inj h).1

theorem SpellsItems.not_closed {items : List Reading} (h : SpellsItems bytes items)
    (rest tail : List UInt8) : skipBlanks (bytes ++ rest) ≠ 0x5D :: tail := by
  cases h with
  | last h => exact h.not_closed rest tail
  | more h _ =>
    rw [List.append_assoc]
    exact h.not_closed _ tail

/-- The name of a member is read up to the colon. -/
theorem SpellsText.readName {key : Option String} (h : SpellsText bytes (.string key))
    (rest : List UInt8) : ∃ inside colon, skipBlanks (bytes ++ 0x3A :: rest) = 0x22 :: inside ∧
      readString? inside = some (key, colon) ∧ skipBlanks colon = 0x3A :: rest := by
  rcases h with ⟨hbefore, h, hafter⟩
  cases h with
  | string h =>
    have hread := h
    cases h with
    | quoted _ =>
      rw [List.append_assoc, skipBlanks_append hbefore, List.append_assoc]
      refine ⟨_, _, skipBlanks_cons rfl _, hread.readString? _, ?_⟩
      exact skipBlanks_append hafter _

theorem SpellsMembers.not_closed {members : List (Option String × Reading)}
    (h : SpellsMembers bytes members) (rest tail : List UInt8) :
    skipBlanks (bytes ++ rest) ≠ 0x7D :: tail := by
  have hname {name : List UInt8} {key : Option String} (h : SpellsText name (.string key))
      (after : List UInt8) : skipBlanks (name ++ 0x3A :: after) ≠ 0x7D :: tail := by
    obtain ⟨_, _, hquote, _⟩ := h.readName after
    rw [hquote]
    exact fun h ↦ absurd (List.cons.inj h).1 (by decide)
  cases h with
  | last h _ =>
    rw [List.append_assoc]
    exact hname h _
  | more h _ _ =>
    rw [List.append_assoc]
    exact hname h _

end Begins

/-! ### Steps of the reader -/

section Steps

variable {fuel : Nat} {bytes rest : List UInt8}

theorem readValue_number {first : UInt8} {numeral : Numeral} (hfirst : StartsNumeral first)
    (h : readNumeral? (first :: bytes) = some (numeral, rest)) :
    readValue (fuel + 1) (first :: bytes) = (.number numeral, rest) := by
  rw [readValue, skipBlanks_cons hfirst.isBlankByte]
  dsimp only
  rw [if_neg (hfirst.ne rfl (by decide)), if_neg (hfirst.ne rfl (by decide)),
    if_neg (hfirst.ne rfl (by decide)), if_neg (hfirst.ne rfl (by decide)),
    if_neg (hfirst.ne rfl (by decide)), if_neg (hfirst.ne rfl (by decide)), h]

theorem readValue_string {text : Option String} (h : readString? bytes = some (text, rest)) :
    readValue (fuel + 1) (0x22 :: bytes) = (.string text, rest) := by
  rw [readValue, skipBlanks_cons rfl]
  dsimp only
  rw [if_pos rfl, h]

theorem readValue_emptyArray (h : skipBlanks bytes = 0x5D :: rest) :
    readValue (fuel + 1) (0x5B :: bytes) = (.array [] true, rest) := by
  rw [readValue, skipBlanks_cons rfl]
  dsimp only
  rw [if_neg (by decide), if_pos rfl, h]
  rfl

theorem readValue_emptyObject (h : skipBlanks bytes = 0x7D :: rest) :
    readValue (fuel + 1) (0x7B :: bytes) = (.object [] true, rest) := by
  rw [readValue, skipBlanks_cons rfl]
  dsimp only
  rw [if_neg (by decide), if_neg (by decide), if_pos rfl, h]
  rfl

theorem readValue_array (h : ∀ tail, skipBlanks bytes ≠ 0x5D :: tail) :
    readValue (fuel + 1) (0x5B :: bytes) = readItems fuel [] bytes := by
  rw [readValue, skipBlanks_cons rfl]
  dsimp only
  rw [if_neg (by decide), if_pos rfl, ← readItems_skipBlanks fuel [] bytes]
  split
  · rename_i tail hskip
    exact absurd hskip (h tail)
  · rfl

theorem readValue_object (h : ∀ tail, skipBlanks bytes ≠ 0x7D :: tail) :
    readValue (fuel + 1) (0x7B :: bytes) = readMembers fuel [] bytes := by
  rw [readValue, skipBlanks_cons rfl]
  dsimp only
  rw [if_neg (by decide), if_neg (by decide), if_pos rfl, ← readMembers_skipBlanks fuel [] bytes]
  split
  · rename_i tail hskip
    exact absurd hskip (h tail)
  · rfl

theorem readItems_last {item : Reading} {tail : List UInt8} (read : List Reading)
    (h : readValue fuel bytes = (item, tail)) (htail : skipBlanks tail = 0x5D :: rest) :
    readItems (fuel + 1) read bytes = (.array (item :: read).reverse true, rest) := by
  simp only [readItems, h, htail]

theorem readItems_next {item : Reading} {tail : List UInt8} (read : List Reading)
    (h : readValue fuel bytes = (item, tail)) (htail : skipBlanks tail = 0x2C :: rest) :
    readItems (fuel + 1) read bytes = readItems fuel (item :: read) rest := by
  simp only [readItems, h, htail]

variable {key : Option String} {value : Reading} {inside colon after tail : List UInt8}

theorem readMembers_last (read : List (Option String × Reading))
    (hquote : skipBlanks bytes = 0x22 :: inside) (hkey : readString? inside = some (key, colon))
    (hcolon : skipBlanks colon = 0x3A :: after) (h : readValue fuel after = (value, tail))
    (htail : skipBlanks tail = 0x7D :: rest) :
    readMembers (fuel + 1) read bytes = (.object ((key, value) :: read).reverse true, rest) := by
  simp only [readMembers, hquote, hkey, hcolon, h, htail]

theorem readMembers_next (read : List (Option String × Reading))
    (hquote : skipBlanks bytes = 0x22 :: inside) (hkey : readString? inside = some (key, colon))
    (hcolon : skipBlanks colon = 0x3A :: after) (h : readValue fuel after = (value, tail))
    (htail : skipBlanks tail = 0x2C :: rest) :
    readMembers (fuel + 1) read bytes = readMembers fuel ((key, value) :: read) rest := by
  simp only [readMembers, hquote, hkey, hcolon, h, htail]

end Steps

/-! ### What is spelled is read -/

theorem stops_cons {b : UInt8}
    (hb : isBlankByte b = true ∨ b = 0x2C ∨ b = 0x5D ∨ b = 0x7D) (tail : List UInt8) :
    Stops (b :: tail) := by
  intro first hfirst
  cases hfirst
  simp only [isBlankByte, Bool.or_eq_true, beq_iff_eq] at hb
  rcases hb with ((((rfl | rfl) | rfl) | rfl) | rfl | rfl | rfl) <;> decide

theorem Stops.append {blanks rest : List UInt8} (hblanks : AreBlank blanks) (h : Stops rest) :
    Stops (blanks ++ rest) := by
  cases blanks with
  | nil => exact h
  | cons b blanks => exact stops_cons (Or.inl (hblanks b List.mem_cons_self)) _

mutual

/-- A value is read up to its end. One unit of fuel is used up for each bracket and for each item or
member, so as much fuel as there are bytes suffices. -/
theorem Spells.readValue : ∀ {bytes : List UInt8} {value : Reading}, Spells bytes value →
    ∀ {fuel : Nat} {rest : List UInt8}, bytes.length ≤ fuel + 1 → Stops rest →
      Json.readValue (fuel + 1) (bytes ++ rest) = (value, rest)
  | _, _, .nullWord, _, _, _, _ => rfl
  | _, _, .trueWord, _, _, _, _ => rfl
  | _, _, .falseWord, _, _, _, _ => rfl
  | _, _, .number h, _, _, _, hrest => by
    have hread := h.readNumeral? hrest
    obtain ⟨first, tail, rfl, hfirst⟩ := h.exists_first
    exact readValue_number hfirst hread
  | _, _, .string h, _, rest, _, _ => by
    have hread := h
    cases h with
    | quoted _ => exact readValue_string (hread.readString? rest)
  | _, _, .emptyArray h, _, rest, _, _ => by
    rw [List.cons_append, List.append_assoc]
    exact readValue_emptyArray (skipBlanks_append h (0x5D :: rest))
  | _, _, .array h, fuel, rest, hfuel, _ => by
    simp only [List.length_cons, List.length_append, List.length_nil] at hfuel
    rw [List.cons_append, List.append_assoc, List.cons_append, List.nil_append,
      readValue_array (h.not_closed _), h.readItems [] (by omega)]
    rfl
  | _, _, .emptyObject h, _, rest, _, _ => by
    rw [List.cons_append, List.append_assoc]
    exact readValue_emptyObject (skipBlanks_append h (0x7D :: rest))
  | _, _, .object h, fuel, rest, hfuel, _ => by
    simp only [List.length_cons, List.length_append, List.length_nil] at hfuel
    rw [List.cons_append, List.append_assoc, List.cons_append, List.nil_append,
      readValue_object (h.not_closed _), h.readMembers [] (by omega)]
    rfl

theorem SpellsText.readValue : ∀ {bytes : List UInt8} {value : Reading}, SpellsText bytes value →
    ∀ {fuel : Nat} {rest : List UInt8}, bytes.length ≤ fuel → Stops rest →
      ∃ tail, Json.readValue fuel (bytes ++ rest) = (value, tail) ∧
        skipBlanks tail = skipBlanks rest
  | _, _, .padded _ h _, 0, _, hfuel, _ => by
    obtain ⟨first, tail, rfl, _⟩ := h.begins
    simp at hfuel
  | _, _, .padded hbefore h hafter, fuel + 1, rest, hfuel, hrest => by
    simp only [List.length_append] at hfuel
    refine ⟨_, ?_, skipBlanks_append hafter rest⟩
    rw [← readValue_skipBlanks, List.append_assoc, skipBlanks_append hbefore, readValue_skipBlanks,
      List.append_assoc]
    exact h.readValue (by omega) (hrest.append hafter)

theorem SpellsItems.readItems : ∀ {bytes : List UInt8} {items : List Reading},
    SpellsItems bytes items → ∀ {fuel : Nat} {rest : List UInt8} (read : List Reading),
      bytes.length < fuel → Json.readItems fuel read (bytes ++ 0x5D :: rest) =
        (.array (read.reverse ++ items) true, rest)
  | _, _, .last h, fuel + 1, rest, read, hfuel => by
    obtain ⟨tail, hread, htail⟩ :=
      h.readValue (Nat.le_of_lt_succ hfuel) (stops_cons (.inr (.inr (.inl rfl))) rest)
    rw [readItems_last read hread (htail.trans (skipBlanks_cons rfl rest)), List.reverse_cons]
  | _, _, @SpellsItems.more _ others _ _ h hothers, fuel + 1, rest, read, hfuel => by
    simp only [List.length_append, List.length_cons] at hfuel
    obtain ⟨tail, hread, htail⟩ := @SpellsText.readValue _ _ h fuel
      (0x2C :: (others ++ 0x5D :: rest)) (by omega) (stops_cons (.inr (.inl rfl)) _)
    rw [List.append_assoc, List.cons_append,
      readItems_next read hread (htail.trans (skipBlanks_cons rfl _)),
      hothers.readItems _ (by omega), List.reverse_cons, List.append_assoc]
    rfl

theorem SpellsMembers.readMembers : ∀ {bytes : List UInt8}
    {members : List (Option String × Reading)}, SpellsMembers bytes members →
    ∀ {fuel : Nat} {rest : List UInt8} (read : List (Option String × Reading)),
      bytes.length < fuel → Json.readMembers fuel read (bytes ++ 0x7D :: rest) =
        (.object (read.reverse ++ members) true, rest)
  | _, _, @SpellsMembers.last _ bytes _ _ hname h, fuel + 1, rest, read, hfuel => by
    simp only [List.length_append, List.length_cons] at hfuel
    obtain ⟨inside, colon, hquote, hkey, hcolon⟩ := hname.readName (bytes ++ 0x7D :: rest)
    obtain ⟨tail, hread, htail⟩ := @SpellsText.readValue _ _ h fuel (0x7D :: rest) (by omega)
      (stops_cons (.inr (.inr (.inr rfl))) rest)
    rw [List.append_assoc, List.cons_append, readMembers_last read hquote hkey hcolon hread
      (htail.trans (skipBlanks_cons rfl rest)), List.reverse_cons]
  | _, _, @SpellsMembers.more _ bytes others _ _ _ hname h hothers, fuel + 1, rest, read, hfuel => by
    simp only [List.length_append, List.length_cons] at hfuel
    obtain ⟨inside, colon, hquote, hkey, hcolon⟩ :=
      hname.readName (bytes ++ 0x2C :: (others ++ 0x7D :: rest))
    obtain ⟨tail, hread, htail⟩ := @SpellsText.readValue _ _ h fuel
      (0x2C :: (others ++ 0x7D :: rest)) (by omega) (stops_cons (.inr (.inl rfl)) _)
    rw [List.append_assoc, List.cons_append, List.append_assoc, List.cons_append,
      readMembers_next read hquote hkey hcolon hread (htail.trans (skipBlanks_cons rfl _)),
      hothers.readMembers _ (by omega), List.reverse_cons, List.append_assoc]
    rfl

end

/-! ### What is read is spelled -/

/-- Whether nothing is missing at the end of a value. -/
def Reading.isClosed : Reading → Bool
  | .array _ closed => closed
  | .object _ closed => closed
  | .broken => false
  | .null | .bool _ | .number _ | .string _ => true

/-- The bytes went wrong: a value is not closed, and nothing is left to read. -/
def GivenUp (result : Reading × List UInt8) : Prop := result.1.isClosed = false ∧ result.2 = []

/-- What is read from bytes is a value behind blanks, unless the bytes go wrong. -/
def ReadsValue (bytes : List UInt8) (result : Reading × List UInt8) : Prop :=
  (∃ before front, AreBlank before ∧ Spells front result.1 ∧
    bytes = before ++ (front ++ result.2)) ∨ GivenUp result

/-- What is read from bytes are the other items of an array and its end, unless the bytes go
wrong. -/
def ReadsItems (read : List Reading) (bytes : List UInt8) (result : Reading × List UInt8) : Prop :=
  (∃ front items, SpellsItems front items ∧ bytes = front ++ 0x5D :: result.2 ∧
    result.1 = .array (read.reverse ++ items) true) ∨ GivenUp result

/-- What is read from bytes are the other members of an object and its end, unless the bytes go
wrong. -/
def ReadsMembers (read : List (Option String × Reading)) (bytes : List UInt8)
    (result : Reading × List UInt8) : Prop :=
  (∃ front members, SpellsMembers front members ∧ bytes = front ++ 0x7D :: result.2 ∧
    result.1 = .object (read.reverse ++ members) true) ∨ GivenUp result

section Sound

variable {fuel : Nat} {bytes rest : List UInt8}

theorem ReadsValue.exists_text {value : Reading} {tail : List UInt8}
    (h : ReadsValue bytes (value, tail)) {b : UInt8} (htail : skipBlanks tail = b :: rest) :
    ∃ front, SpellsText front value ∧ bytes = front ++ b :: rest := by
  rcases h with ⟨before, front, hbefore, hfront, rfl⟩ | ⟨_, hnil⟩
  · obtain ⟨after, hafter, htailEq⟩ := exists_areBlank tail
    refine ⟨_, .padded hbefore hfront hafter, ?_⟩
    dsimp only
    rw [htailEq, htail]
    simp
  · dsimp only at hnil
    rw [hnil] at htail
    cases htail

theorem exists_name {inside colon after : List UInt8} {key : Option String}
    (hquote : skipBlanks bytes = 0x22 :: inside) (hkey : readString? inside = some (key, colon))
    (hcolon : skipBlanks colon = 0x3A :: after) :
    ∃ name, SpellsText name (.string key) ∧ bytes = name ++ 0x3A :: after := by
  obtain ⟨before, hbefore, hbytes⟩ := exists_areBlank bytes
  obtain ⟨behind, hbehind, hcolonEq⟩ := exists_areBlank colon
  obtain ⟨text, htext, rfl⟩ := exists_spellsString hkey
  refine ⟨_, .padded hbefore (.string htext) hbehind, ?_⟩
  rw [hbytes, hquote, hcolonEq, hcolon]
  simp

theorem exists_literal {word : String} {value : Reading} (hspells : Spells (Text.utf8 word) value)
    (bytes : List UInt8) :
    (∃ front, Spells front (readLiteral word value bytes).1 ∧
      bytes = front ++ (readLiteral word value bytes).2) ∨
      GivenUp (readLiteral word value bytes) := by
  unfold readLiteral readWord?
  by_cases hprefix : (Text.utf8 word).isPrefixOf bytes = true
  · rw [if_pos hprefix]
    refine Or.inl ⟨_, hspells, ?_⟩
    exact (List.prefix_iff_eq_append.1 (List.isPrefixOf_iff_prefix.1 hprefix)).symm
  · rw [if_neg hprefix]
    exact Or.inr ⟨rfl, rfl⟩

/-- An array, given that the items in it are read as they are spelled. -/
theorem exists_array
    (hitems : ∀ read bytes, ReadsItems read bytes (readItems fuel read bytes))
    (bytes : List UInt8) :
    (∃ front, Spells front (readValue (fuel + 1) (0x5B :: bytes)).1 ∧
      0x5B :: bytes = front ++ (readValue (fuel + 1) (0x5B :: bytes)).2) ∨
      GivenUp (readValue (fuel + 1) (0x5B :: bytes)) := by
  by_cases hempty : ∃ tail, skipBlanks bytes = 0x5D :: tail
  · obtain ⟨tail, htail⟩ := hempty
    obtain ⟨blanks, hblanks, hbytes⟩ := exists_areBlank bytes
    rw [readValue_emptyArray htail]
    refine Or.inl ⟨_, .emptyArray hblanks, ?_⟩
    rw [hbytes, htail]
    simp
  · rw [readValue_array (not_exists.1 hempty)]
    rcases hitems [] bytes with ⟨front, items, hfront, hbytes, hvalue⟩ | hgivenUp
    · refine Or.inl ⟨0x5B :: (front ++ [0x5D]), hvalue ▸ .array hfront, ?_⟩
      rw [List.cons_append, List.append_assoc]
      exact congrArg _ hbytes
    · exact Or.inr hgivenUp

/-- An object, given that the members in it are read as they are spelled. -/
theorem exists_object
    (hmembers : ∀ read bytes, ReadsMembers read bytes (readMembers fuel read bytes))
    (bytes : List UInt8) :
    (∃ front, Spells front (readValue (fuel + 1) (0x7B :: bytes)).1 ∧
      0x7B :: bytes = front ++ (readValue (fuel + 1) (0x7B :: bytes)).2) ∨
      GivenUp (readValue (fuel + 1) (0x7B :: bytes)) := by
  by_cases hempty : ∃ tail, skipBlanks bytes = 0x7D :: tail
  · obtain ⟨tail, htail⟩ := hempty
    obtain ⟨blanks, hblanks, hbytes⟩ := exists_areBlank bytes
    rw [readValue_emptyObject htail]
    refine Or.inl ⟨_, .emptyObject hblanks, ?_⟩
    rw [hbytes, htail]
    simp
  · rw [readValue_object (not_exists.1 hempty)]
    rcases hmembers [] bytes with ⟨front, members, hfront, hbytes, hvalue⟩ | hgivenUp
    · refine Or.inl ⟨0x7B :: (front ++ [0x7D]), hvalue ▸ .object hfront, ?_⟩
      rw [List.cons_append, List.append_assoc]
      exact congrArg _ hbytes
    · exact Or.inr hgivenUp

theorem readsValue_succ
    (hitems : ∀ read bytes, ReadsItems read bytes (readItems fuel read bytes))
    (hmembers : ∀ read bytes, ReadsMembers read bytes (readMembers fuel read bytes))
    (bytes : List UInt8) : ReadsValue bytes (readValue (fuel + 1) bytes) := by
  obtain ⟨before, hbefore, hbytes⟩ := exists_areBlank bytes
  suffices hvalue : (∃ front, Spells front (readValue (fuel + 1) (skipBlanks bytes)).1 ∧
      skipBlanks bytes = front ++ (readValue (fuel + 1) (skipBlanks bytes)).2) ∨
      GivenUp (readValue (fuel + 1) (skipBlanks bytes)) by
    rw [readValue_skipBlanks] at hvalue
    rcases hvalue with ⟨front, hfront, hskip⟩ | hgivenUp
    · exact Or.inl ⟨before, front, hbefore, hfront, hskip ▸ hbytes⟩
    · exact Or.inr hgivenUp
  cases hskip : skipBlanks bytes with
  | nil => exact Or.inr ⟨rfl, rfl⟩
  | cons first rest =>
    have hidem := hskip ▸ skipBlanks_skipBlanks bytes
    by_cases hquote : first = 0x22
    · subst hquote
      cases hstring : readString? rest with
      | none =>
        have hbroken : readValue (fuel + 1) (0x22 :: rest) = (.broken, []) := by
          rw [readValue, hidem]
          dsimp only
          rw [if_pos rfl, hstring]
        rw [hbroken]
        exact Or.inr ⟨rfl, rfl⟩
      | some found =>
        obtain ⟨inside, hinside, hrest⟩ := exists_spellsString hstring
        rw [readValue_string hstring]
        exact Or.inl ⟨0x22 :: inside, .string hinside, congrArg _ hrest⟩
    by_cases harray : first = 0x5B
    · exact harray ▸ exists_array hitems rest
    by_cases hobject : first = 0x7B
    · exact hobject ▸ exists_object hmembers rest
    rw [readValue, hidem]
    dsimp only
    rw [if_neg hquote, if_neg harray, if_neg hobject]
    split
    · exact exists_literal .nullWord _
    · split
      · exact exists_literal .trueWord _
      · split
        · exact exists_literal .falseWord _
        · split
          · rename_i hnumeral
            obtain ⟨front, hfront, hrest⟩ := exists_spellsNumeral hnumeral
            exact Or.inl ⟨front, .number hfront, hrest⟩
          · exact Or.inr ⟨rfl, rfl⟩

theorem givenUp_readItems {item : Reading} {tail : List UInt8} (read : List Reading)
    (h : readValue fuel bytes = (item, tail)) (hlast : ∀ rest, skipBlanks tail ≠ 0x5D :: rest)
    (hnext : ∀ rest, skipBlanks tail ≠ 0x2C :: rest) :
    GivenUp (readItems (fuel + 1) read bytes) := by
  simp only [readItems, h]
  exact ⟨rfl, rfl⟩

theorem readsItems_succ (hvalue : ∀ bytes, ReadsValue bytes (readValue fuel bytes))
    (hitems : ∀ read bytes, ReadsItems read bytes (readItems fuel read bytes))
    (read : List Reading) (bytes : List UInt8) :
    ReadsItems read bytes (readItems (fuel + 1) read bytes) := by
  obtain ⟨item, tail, hread⟩ : ∃ item tail, readValue fuel bytes = (item, tail) := ⟨_, _, rfl⟩
  have hitem := hread ▸ hvalue bytes
  by_cases hlast : ∃ rest, skipBlanks tail = 0x5D :: rest
  · obtain ⟨rest, hrest⟩ := hlast
    obtain ⟨front, hfront, hbytes⟩ := hitem.exists_text hrest
    rw [readItems_last read hread hrest]
    exact Or.inl ⟨front, [item], .last hfront, hbytes, by rw [List.reverse_cons]⟩
  by_cases hnext : ∃ rest, skipBlanks tail = 0x2C :: rest
  · obtain ⟨rest, hrest⟩ := hnext
    obtain ⟨front, hfront, hbytes⟩ := hitem.exists_text hrest
    rw [readItems_next read hread hrest]
    rcases hitems (item :: read) rest with ⟨others, items, hothers, hbehind, hresult⟩ | hgivenUp
    · refine Or.inl ⟨_, item :: items, .more hfront hothers, ?_, ?_⟩
      · rw [List.append_assoc, List.cons_append, ← hbehind, hbytes]
      · rw [hresult, List.reverse_cons, List.append_assoc]
        rfl
    · exact Or.inr hgivenUp
  · exact Or.inr (givenUp_readItems read hread (not_exists.1 hlast) (not_exists.1 hnext))

/-- A member is there up to what is behind it, or the bytes went wrong. -/
theorem exists_member (fuel : Nat) (read : List (Option String × Reading)) (bytes : List UInt8) :
    (∃ inside key colon after value tail rest, skipBlanks bytes = 0x22 :: inside ∧
      readString? inside = some (key, colon) ∧ skipBlanks colon = 0x3A :: after ∧
      readValue fuel after = (value, tail) ∧
      (skipBlanks tail = 0x7D :: rest ∨ skipBlanks tail = 0x2C :: rest)) ∨
      GivenUp (readMembers (fuel + 1) read bytes) := by
  rw [readMembers]
  split
  · rename_i inside hquote
    cases hkey : readString? inside with
    | none => exact Or.inr ⟨rfl, rfl⟩
    | some found =>
      obtain ⟨key, colon⟩ := found
      dsimp only
      split
      · rename_i after hcolon
        split
        · rename_i rest hrest
          exact Or.inl ⟨_, _, _, _, _, _, rest, hquote, hkey, hcolon, rfl, Or.inl hrest⟩
        · rename_i rest hrest
          exact Or.inl ⟨_, _, _, _, _, _, rest, hquote, hkey, hcolon, rfl, Or.inr hrest⟩
        · exact Or.inr ⟨rfl, rfl⟩
      · exact Or.inr ⟨rfl, rfl⟩
  · exact Or.inr ⟨rfl, rfl⟩

theorem readsMembers_succ (hvalue : ∀ bytes, ReadsValue bytes (readValue fuel bytes))
    (hmembers : ∀ read bytes, ReadsMembers read bytes (readMembers fuel read bytes))
    (read : List (Option String × Reading)) (bytes : List UInt8) :
    ReadsMembers read bytes (readMembers (fuel + 1) read bytes) := by
  rcases exists_member fuel read bytes with
    ⟨inside, key, colon, after, value, tail, rest, hquote, hkey, hcolon, hread, hrest⟩ | hgivenUp
  · obtain ⟨name, hname, hbytes⟩ := exists_name hquote hkey hcolon
    have hvalueRead := hread ▸ hvalue after
    rcases hrest with hrest | hrest
    · obtain ⟨front, hfront, hafter⟩ := hvalueRead.exists_text hrest
      rw [readMembers_last read hquote hkey hcolon hread hrest]
      refine Or.inl ⟨_, [(key, value)], .last hname hfront, ?_, by rw [List.reverse_cons]⟩
      rw [hbytes, hafter, List.append_assoc, List.cons_append]
    · obtain ⟨front, hfront, hafter⟩ := hvalueRead.exists_text hrest
      rw [readMembers_next read hquote hkey hcolon hread hrest]
      rcases hmembers ((key, value) :: read) rest with
        ⟨others, members, hothers, hbehind, hresult⟩ | hgivenUp
      · refine Or.inl ⟨_, (key, value) :: members, .more hname hfront hothers, ?_, ?_⟩
        · simp only [List.append_assoc, List.cons_append]
          rw [← hbehind, ← hafter, hbytes]
        · rw [hresult, List.reverse_cons, List.append_assoc]
          rfl
      · exact Or.inr hgivenUp
  · exact Or.inr hgivenUp

/-- Values, items and members are read as they are spelled, or given up. -/
theorem readsAsSpelled (fuel : Nat) : (∀ bytes, ReadsValue bytes (readValue fuel bytes)) ∧
    (∀ read bytes, ReadsItems read bytes (readItems fuel read bytes)) ∧
    ∀ read bytes, ReadsMembers read bytes (readMembers fuel read bytes) := by
  induction fuel with
  | zero =>
    exact ⟨fun _ ↦ Or.inr ⟨rfl, rfl⟩, fun _ _ ↦ Or.inr ⟨rfl, rfl⟩, fun _ _ ↦ Or.inr ⟨rfl, rfl⟩⟩
  | succ fuel ih =>
    obtain ⟨hvalue, hitems, hmembers⟩ := ih
    exact ⟨readsValue_succ hitems hmembers, readsItems_succ hvalue hitems,
      readsMembers_succ hvalue hmembers⟩

end Sound

/-! ### Texts -/

theorem Spells.isClosed {bytes : List UInt8} {value : Reading} (h : Spells bytes value) :
    value.isClosed = true := by
  cases h <;> rfl

/-- A text is read as its value and without remainder, and nothing else is. -/
theorem readDocument_iff {bytes : List UInt8} {value : Reading} :
    readDocument bytes = ⟨value, true⟩ ∧ value.isClosed = true ↔ SpellsText bytes value := by
  constructor
  · rintro ⟨hread, hclosed⟩
    obtain ⟨found, tail, hvalue⟩ :
        ∃ found tail, readValue (2 * bytes.length + 2) bytes = (found, tail) := ⟨_, _, rfl⟩
    rw [readDocument, hvalue, Document.mk.injEq, List.isEmpty_iff] at hread
    obtain ⟨rfl, hblank⟩ := hread
    rcases hvalue ▸ (readsAsSpelled (2 * bytes.length + 2)).1 bytes with
      ⟨before, front, hbefore, hfront, hbytes⟩ | ⟨hopen, _⟩
    · rw [hbytes]
      exact .padded hbefore hfront (areBlank_of_skipBlanks hblank)
    · exact absurd hclosed (hopen ▸ Bool.false_ne_true)
  · intro h
    have hclosed : value.isClosed = true := by
      cases h with
      | padded _ h _ => exact h.isClosed
    obtain ⟨tail, hvalue, htail⟩ := @SpellsText.readValue _ _ h (2 * bytes.length + 2) []
      (by omega) (fun b hb ↦ by cases hb)
    rw [List.append_nil] at hvalue
    rw [readDocument, hvalue]
    exact ⟨by dsimp only; rw [htail]; rfl, hclosed⟩

end OverlayGateway.Json
