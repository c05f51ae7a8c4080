import Mathlib.Data.List.Forall2
import OverlayGateway.Json.Reading
import OverlayGateway.Proofs.Text.Visible
/-!
The grammar of JSON texts, as a relation between bytes and what they spell. A value may have blanks
around it, and so may the name of a member. The inside of a string is a sequence of bytes and
escapes and need not make a text. A numeral has digits wherever it has a part, and no zero in front
of another digit.

The leaves of the grammar are what the reader takes them for. The inside of a string is read up to
the closing quote (`SpellsPieces.readPieces?`, `exists_spellsPieces`), and a numeral as far as it
goes (`SpellsNumeral.readNumeral?`, `exists_spellsNumeral`), which is to where the next byte cannot
belong to it.
-/

set_option autoImplicit false
set_option relaxedAutoImplicit false

namespace OverlayGateway.Json

/-! ### The grammar -/

/-- Whether bytes are blanks only. -/
def AreBlank (bytes : List UInt8) : Prop := ∀ b ∈ bytes, isBlankByte b = true

/-- A byte that stands for itself inside a string. -/
def IsPlainByte (b : UInt8) : Prop := 0x20 ≤ b.toNat ∧ b.toNat ≠ 0x22 ∧ b.toNat ≠ 0x5C

/-- The inside of a string. -/
inductive SpellsPieces : List UInt8 → List Piece → Prop
  | nil : SpellsPieces [] []
  | plain {b : UInt8} {bytes : List UInt8} {pieces : List Piece} (hb : IsPlainByte b)
      (rest : SpellsPieces bytes pieces) : SpellsPieces (b :: bytes) (.byte b :: pieces)
  | letter {letter byte : UInt8} {bytes : List UInt8} {pieces : List Piece}
      (hletter : escaped? letter = some byte) (rest : SpellsPieces bytes pieces) :
      SpellsPieces (0x5C :: letter :: bytes) (.byte byte :: pieces)
  | number {a b c d : UInt8} {unit : Nat} {bytes : List UInt8} {pieces : List Piece}
      (hunit : unitOf? a b c d = some unit) (rest : SpellsPieces bytes pieces) :
      SpellsPieces (0x5C :: 0x75 :: a :: b :: c :: d :: bytes) (.unit unit :: pieces)

/-- The text of a string with some pieces inside, if it is one. -/
def textOf? (pieces : List Piece) : Option String := (pieceBytes? [] pieces).bind Text.ofUtf8?

/-- A string, which may be no text. -/
inductive SpellsString : List UInt8 → Option String → Prop
  | quoted {inside : List UInt8} {pieces : List Piece} (h : SpellsPieces inside pieces) :
      SpellsString (0x22 :: (inside ++ [0x22])) (textOf? pieces)

/-- At least one digit. -/
def SpellsDigits (bytes : List UInt8) (digits : List Nat) : Prop :=
  digits ≠ [] ∧ List.Forall₂ (fun b digit ↦ digitOfByte? b = some digit) bytes digits

/-- A minus sign, or nothing. -/
inductive SpellsMinus : List UInt8 → Bool → Prop
  | none : SpellsMinus [] false
  | minus : SpellsMinus [0x2D] true

/-- A sign, or nothing. -/
inductive SpellsSign : List UInt8 → Bool → Prop
  | none : SpellsSign [] false
  | plus : SpellsSign [0x2B] false
  | minus : SpellsSign [0x2D] true

/-- A point with digits behind it, or nothing. -/
inductive SpellsFraction : List UInt8 → List Nat → Prop
  | none : SpellsFraction [] []
  | digits {bytes : List UInt8} {digits : List Nat} (h : SpellsDigits bytes digits) :
      SpellsFraction (0x2E :: bytes) digits

/-- A power of ten, or nothing. -/
inductive SpellsExponent : List UInt8 → Option Int → Prop
  | none : SpellsExponent [] none
  | power {mark : UInt8} {sign bytes : List UInt8} {negative : Bool} {digits : List Nat}
      (hmark : mark = 0x65 ∨ mark = 0x45) (hsign : SpellsSign sign negative)
      (h : SpellsDigits bytes digits) :
      SpellsExponent (mark :: (sign ++ bytes))
        (some (if negative then -(ofDigits digits : Int) else ofDigits digits))

/-- A numeral. -/
inductive SpellsNumeral : List UInt8 → Numeral → Prop
  | parts {sign whole fraction exponent : List UInt8} {numeral : Numeral}
      (hsign : SpellsMinus sign numeral.negative) (hwhole : SpellsDigits whole numeral.whole)
      (hzero : numeral.whole.head? = some 0 → numeral.whole.length = 1)
      (hfraction : SpellsFraction fraction numeral.fraction)
      (hexponent : SpellsExponent exponent numeral.exponent) :
      SpellsNumeral (sign ++ (whole ++ (fraction ++ exponent))) numeral

mutual

/-- A value. -/
inductive Spells : List UInt8 → Reading → Prop
  | nullWord : Spells (Text.utf8 "null") .null
  | trueWord : Spells (Text.utf8 "true") (.bool true)
  | falseWord : Spells (Text.utf8 "false") (.bool false)
  | number {bytes : List UInt8} {numeral : Numeral} (h : SpellsNumeral bytes numeral) :
      Spells bytes (.number numeral)
  | string {bytes : List UInt8} {text : Option String} (h : SpellsString bytes text) :
      Spells bytes (.string text)
  | emptyArray {blanks : List UInt8} (h : AreBlank blanks) :
      Spells (0x5B :: (blanks ++ [0x5D])) (.array [] true)
  | array {bytes : List UInt8} {items : List Reading} (h : SpellsItems bytes items) :
      Spells (0x5B :: (bytes ++ [0x5D])) (.array items true)
  | emptyObject {blanks : List UInt8} (h : AreBlank blanks) :
      Spells (0x7B :: (blanks ++ [0x7D])) (.object [] true)
  | object {bytes : List UInt8} {members : List (Option String × Reading)}
      (h : SpellsMembers bytes members) : Spells (0x7B :: (bytes ++ [0x7D])) (.object members true)

/-- A value with blanks around it, as a whole text is one. -/
inductive SpellsText : List UInt8 → Reading → Prop
  | padded {before bytes after : List UInt8} {value : Reading} (hbefore : AreBlank before)
      (h : Spells bytes value) (hafter : AreBlank after) :
      SpellsText (before ++ (bytes ++ after)) value

/-- The items of an array, with commas between them. -/
inductive SpellsItems : List UInt8 → List Reading → Prop
  | last {bytes : List UInt8} {item : Reading} (h : SpellsText bytes item) :
      SpellsItems bytes [item]
  | more {bytes others : List UInt8} {item : Reading} {items : List Reading}
      (h : SpellsText bytes item) (rest : SpellsItems others items) :
      SpellsItems (bytes ++ 0x2C :: others) (item :: items)

/-- The members of an object, with commas between them. -/
inductive SpellsMembers : List UInt8 → List (Option String × Reading) → Prop
  | last {name bytes : List UInt8} {key : Option String} {value : Reading}
      (hname : SpellsText name (.string key)) (h : SpellsText bytes value) :
      SpellsMembers (name ++ 0x3A :: bytes) [(key, value)]
  | more {name bytes others : List UInt8} {key : Option String} {value : Reading}
      {members : List (Option String × Reading)} (hname : SpellsText name (.string key))
      (h : SpellsText bytes value) (rest : SpellsMembers others members) :
      SpellsMembers (name ++ 0x3A :: (bytes ++ 0x2C :: others)) ((key, value) :: members)

end

/-! ### Strings -/

section Strings

variable (read : List Piece) (rest : List UInt8)

theorem readPieces?_letter {letter byte : UInt8} (h : escaped? letter = some byte) :
    readPieces? read (0x5C :: letter :: rest) = readPieces? (.byte byte :: read) rest := by
  rw [readPieces?.eq_def]
  split
  · rename_i h
    cases h
  · rename_i h
    cases h
  · rename_i h
    cases h
  · rename_i hbytes
    cases hbytes
    cases h
  · rename_i hbytes
    cases hbytes
    rw [h]
  · rename_i hother h
    cases h
    exact (hother _ _ rfl rfl).elim

theorem readPieces?_number {a b c d : UInt8} {unit : Nat} (h : unitOf? a b c d = some unit) :
    readPieces? read (0x5C :: 0x75 :: a :: b :: c :: d :: rest) =
      readPieces? (.unit unit :: read) rest := by
  rw [readPieces?, h]

theorem readPieces?_plain {b : UInt8} (hb : IsPlainByte b) :
    readPieces? read (b :: rest) = readPieces? (.byte b :: read) rest := by
  obtain ⟨hcontrol, hquote, hbackslash⟩ := hb
  rw [readPieces?.eq_def]
  split
  · rename_i h
    cases h
  · rename_i h
    cases h
    exact absurd rfl hquote
  · rename_i h
    cases h
    exact absurd rfl hbackslash
  · rename_i h
    cases h
    exact absurd rfl hbackslash
  · rename_i h
    cases h
    exact absurd rfl hbackslash
  · rename_i h
    cases h
    rw [if_neg]
    exact UInt8.not_lt.2 hcontrol

/-- The inside of a string is read as its pieces, whatever stands around it. -/
theorem SpellsPieces.readPieces? {bytes : List UInt8} {pieces : List Piece}
    (h : SpellsPieces bytes pieces) :
    Json.readPieces? read (bytes ++ rest) = Json.readPieces? (pieces.reverse ++ read) rest := by
  induction h generalizing read with
  | nil => rfl
  | plain hb _ ih => rw [List.cons_append, readPieces?_plain _ _ hb, ih]; simp
  | letter hletter _ ih =>
    rw [List.cons_append, List.cons_append, readPieces?_letter _ _ hletter, ih]
    simp
  | number hunit _ ih =>
    simp only [List.cons_append]
    rw [readPieces?_number _ _ hunit, ih]
    simp

end Strings

/-- A string is read up to its closing quote. -/
theorem exists_spellsPieces {read pieces : List Piece} {bytes rest : List UInt8}
    (h : readPieces? read bytes = some (pieces, rest)) :
    ∃ inside found, SpellsPieces inside found ∧ bytes = inside ++ 0x22 :: rest ∧
      pieces = read.reverse ++ found := by
  fun_induction readPieces? read bytes with
  | case1 read => cases h
  | case2 read after =>
    cases h
    exact ⟨[], [], .nil, rfl, (List.append_nil _).symm⟩
  | case3 read => cases h
  | case4 read a b c d after unit hunit ih =>
    obtain ⟨inside, found, hinside, rfl, rfl⟩ := ih h
    exact ⟨_, .unit unit :: found, .number hunit hinside, rfl, by simp⟩
  | case5 read a b c d after hunit => cases h
  | case6 read letter after hother byte hletter ih =>
    obtain ⟨inside, found, hinside, rfl, rfl⟩ := ih h
    exact ⟨_, .byte byte :: found, .letter hletter hinside, rfl, by simp⟩
  | case7 read letter after hother hletter => cases h
  | case8 read byte after hquote hend hunit hescape hcontrol => cases h
  | case9 read byte after hquote hend hunit hescape hcontrol ih =>
    obtain ⟨inside, found, hinside, rfl, rfl⟩ := ih h
    have hbackslash : byte ≠ 0x5C := by
      intro hbyte
      cases hafter : inside ++ 0x22 :: rest with
      | nil => exact hend hbyte hafter
      | cons letter tail => exact hescape letter tail hbyte hafter
    have hplain : IsPlainByte byte :=
      ⟨UInt8.not_lt.1 hcontrol, fun h ↦ hquote (UInt8.toNat_inj.1 h),
        fun h ↦ hbackslash (UInt8.toNat_inj.1 h)⟩
    exact ⟨_, .byte byte :: found, .plain hplain hinside, rfl, by simp⟩

theorem SpellsString.readString? {bytes : List UInt8} {text : Option String}
    (h : SpellsString (0x22 :: bytes) text) (rest : List UInt8) :
    Json.readString? (bytes ++ rest) = some (text, rest) := by
  cases h with
  | quoted h =>
    rw [List.append_assoc, Json.readString?, h.readPieces?, List.append_nil]
    simp [Json.readPieces?, textOf?]

theorem exists_spellsString {bytes rest : List UInt8} {text : Option String}
    (h : readString? bytes = some (text, rest)) :
    ∃ inside, SpellsString (0x22 :: inside) text ∧ bytes = inside ++ rest := by
  obtain ⟨⟨pieces, after⟩, hread, hresult⟩ := Option.map_eq_some_iff.1 h
  cases hresult
  obtain ⟨inside, found, hinside, rfl, rfl⟩ := exists_spellsPieces hread
  exact ⟨inside ++ [0x22], .quoted hinside, by simp⟩

/-! ### Numerals -/

/-- Whether what follows cannot belong to a number in front of it. -/
def Stops (rest : List UInt8) : Prop :=
  ∀ b ∈ rest.head?, isDigitByte b = false ∧ b ≠ 0x2E ∧ b ≠ 0x65 ∧ b ≠ 0x45

section Digits

variable {bytes rest : List UInt8} {digits : List Nat}

theorem SpellsDigits.isDigitByte (h : SpellsDigits bytes digits) :
    ∀ b ∈ bytes, isDigitByte b = true := by
  obtain ⟨-, h⟩ := h
  induction h with
  | nil => simp
  | cons hfirst _ ih => exact List.forall_mem_cons.2 ⟨by rw [Json.isDigitByte, hfirst]; rfl, ih⟩

theorem SpellsDigits.filterMap (h : SpellsDigits bytes digits) :
    bytes.filterMap digitOfByte? = digits := by
  obtain ⟨-, h⟩ := h
  induction h with
  | nil => rfl
  | cons hfirst _ ih => rw [List.filterMap_cons_some hfirst, ih]

theorem forall₂_filterMap (h : ∀ b ∈ bytes, isDigitByte b = true) :
    List.Forall₂ (fun b digit ↦ digitOfByte? b = some digit) bytes
      (bytes.filterMap digitOfByte?) := by
  induction bytes with
  | nil => exact .nil
  | cons b bytes ih =>
    rw [List.forall_mem_cons] at h
    obtain ⟨digit, hdigit⟩ := Option.isSome_iff_exists.1 h.1
    rw [List.filterMap_cons_some hdigit]
    exact .cons hdigit (ih h.2)

/-- Digits are read as far as they go. -/
theorem SpellsDigits.spanDigits (h : SpellsDigits bytes digits)
    (hrest : ∀ b ∈ rest.head?, Json.isDigitByte b = false) :
    Json.spanDigits (bytes ++ rest) = (digits, rest) := by
  have hstop : rest.takeWhile Json.isDigitByte = [] := by
    cases rest with
    | nil => rfl
    | cons b rest => exact List.takeWhile_cons_of_neg (by simp [hrest b rfl])
  obtain ⟨htake, hdrop⟩ := takeWhile_digits h.isDigitByte hstop
  rw [Json.spanDigits, htake, hdrop, h.filterMap]

theorem exists_spellsDigits (hne : digits ≠ []) (h : spanDigits bytes = (digits, rest)) :
    ∃ front, SpellsDigits front digits ∧ bytes = front ++ rest := by
  cases h
  refine ⟨bytes.takeWhile isDigitByte, ⟨hne, forall₂_filterMap fun b hb ↦ ?_⟩,
    List.takeWhile_append_dropWhile.symm⟩
  exact List.all_eq_true.1 List.all_takeWhile b hb

theorem readFraction?_spells (h : SpellsFraction bytes digits)
    (hrest : ∀ b ∈ rest.head?, isDigitByte b = false ∧ b ≠ 0x2E) :
    readFraction? (bytes ++ rest) = some (digits, rest) := by
  cases h with
  | none =>
    rw [List.nil_append, readFraction?.eq_def]
    split
    · exact absurd rfl (hrest _ rfl).2
    · rfl
  | digits h =>
    rw [List.cons_append, readFraction?, h.spanDigits fun b hb ↦ (hrest b hb).1]
    split
    · rename_i hspan
      cases hspan
      exact absurd rfl h.1
    · rename_i hspan
      cases hspan
      rfl

theorem exists_spellsFraction (h : readFraction? bytes = some (digits, rest)) :
    ∃ front, SpellsFraction front digits ∧ bytes = front ++ rest := by
  rw [readFraction?.eq_def] at h
  split at h
  · split at h
    · cases h
    · rename_i hne hspan
      cases h
      obtain ⟨front, hfront, rfl⟩ := exists_spellsDigits (fun hnil ↦ hne hnil) hspan
      exact ⟨_, .digits hfront, rfl⟩
  · cases h
    exact ⟨[], .none, rfl⟩

/-- Digits do not start with a sign or with anything else that is no digit. -/
theorem SpellsDigits.exists_first (h : SpellsDigits bytes digits) :
    ∃ first tail, bytes = first :: tail ∧ Json.isDigitByte first = true := by
  cases bytes with
  | nil =>
    cases h.2
    exact absurd rfl h.1
  | cons first tail => exact ⟨first, tail, rfl, h.isDigitByte first List.mem_cons_self⟩

theorem ne_of_isDigitByte {first other : UInt8} (hfirst : isDigitByte first = true)
    (hother : isDigitByte other = false) : first ≠ other := by
  rintro rfl
  rw [hfirst] at hother
  cases hother

/-- Whether bytes start with a minus sign, and what is behind it. -/
def splitMinus : List UInt8 → Bool × List UInt8
  | 0x2D :: rest => (true, rest)
  | rest => (false, rest)

/-- Whether bytes start with a minus sign, and what is behind a sign. -/
def splitSign : List UInt8 → Bool × List UInt8
  | 0x2B :: rest => (false, rest)
  | 0x2D :: rest => (true, rest)
  | rest => (false, rest)

section Signs

variable {sign : List UInt8} {negative : Bool} {first : UInt8}

theorem splitMinus_spells (h : SpellsMinus sign negative) (hfirst : isDigitByte first = true)
    (tail : List UInt8) : splitMinus (sign ++ first :: tail) = (negative, first :: tail) := by
  cases h with
  | none =>
    rw [List.nil_append, splitMinus.eq_def]
    split
    · rename_i hbytes
      cases hbytes
      cases hfirst
    · rfl
  | minus => rfl

theorem splitSign_spells (h : SpellsSign sign negative) (hfirst : isDigitByte first = true)
    (tail : List UInt8) : splitSign (sign ++ first :: tail) = (negative, first :: tail) := by
  cases h with
  | none =>
    rw [List.nil_append, splitSign.eq_def]
    split
    · rename_i hbytes
      cases hbytes
      cases hfirst
    · rename_i hbytes
      cases hbytes
      cases hfirst
    · rfl
  | plus => rfl
  | minus => rfl

theorem exists_spellsMinus (bytes : List UInt8) :
    ∃ sign, SpellsMinus sign (splitMinus bytes).1 ∧ bytes = sign ++ (splitMinus bytes).2 := by
  rw [splitMinus.eq_def]
  split
  · exact ⟨[0x2D], .minus, rfl⟩
  · exact ⟨[], .none, rfl⟩

theorem exists_spellsSign (bytes : List UInt8) :
    ∃ sign, SpellsSign sign (splitSign bytes).1 ∧ bytes = sign ++ (splitSign bytes).2 := by
  rw [splitSign.eq_def]
  split
  · exact ⟨[0x2B], .plus, rfl⟩
  · exact ⟨[0x2D], .minus, rfl⟩
  · exact ⟨[], .none, rfl⟩

end Signs

theorem readExponent?_mark {mark : UInt8} (hmark : mark = 0x65 ∨ mark = 0x45)
    (rest : List UInt8) : readExponent? (mark :: rest) =
      match spanDigits (splitSign rest).2 with
      | ([], _) => none
      | (digits, after) =>
        some (some (if (splitSign rest).1 then -(ofDigits digits : Int) else ofDigits digits),
          after) := by
  rw [readExponent?.eq_def]
  dsimp only
  rw [if_pos hmark]
  rfl

theorem readNumeral?_eq (bytes : List UInt8) : readNumeral? bytes =
    match spanDigits (splitMinus bytes).2 with
    | ([], _) => none
    | (whole, rest) =>
      if whole.head? = some 0 ∧ 1 < whole.length then none
      else do
        let (fraction, rest) ← readFraction? rest
        let (exponent, rest) ← readExponent? rest
        return (⟨(splitMinus bytes).1, whole, fraction, exponent⟩, rest) :=
  rfl

section Parts

variable {power : Option Int} {numeral : Numeral}

theorem readExponent?_spells (h : SpellsExponent bytes power) (hrest : Stops rest) :
    readExponent? (bytes ++ rest) = some (power, rest) := by
  cases h with
  | none =>
    cases rest with
    | nil => rfl
    | cons b rest =>
      obtain ⟨-, -, hsmall, hcapital⟩ := hrest b rfl
      rw [List.nil_append, readExponent?.eq_def]
      dsimp only
      rw [if_neg (not_or.2 ⟨hsmall, hcapital⟩)]
  | @power mark sign bytes negative digits hmark hsign h =>
    have hspan := h.spanDigits fun b hb ↦ (hrest b hb).1
    obtain ⟨first, tail, rfl, hfirst⟩ := h.exists_first
    rw [List.cons_append, List.append_assoc, readExponent?_mark hmark, List.cons_append,
      splitSign_spells hsign hfirst]
    rw [List.cons_append] at hspan
    dsimp only
    rw [hspan]
    split
    · rename_i hdigits
      cases hdigits
      exact absurd rfl h.1
    · rename_i hdigits
      cases hdigits
      rfl

theorem exists_spellsExponent (h : readExponent? bytes = some (power, rest)) :
    ∃ front, SpellsExponent front power ∧ bytes = front ++ rest := by
  cases bytes with
  | nil =>
    cases h
    exact ⟨[], .none, rfl⟩
  | cons mark bytes =>
    by_cases hmark : mark = 0x65 ∨ mark = 0x45
    · rw [readExponent?_mark hmark] at h
      obtain ⟨sign, hsign, hbytes⟩ := exists_spellsSign bytes
      split at h
      · cases h
      · rename_i hne hspan
        cases h
        obtain ⟨front, hfront, hrest⟩ := exists_spellsDigits (fun hnil ↦ hne hnil) hspan
        refine ⟨_, .power hmark hsign hfront, ?_⟩
        rw [List.cons_append, List.append_assoc, ← hrest, ← hbytes]
    · rw [readExponent?.eq_def] at h
      dsimp only at h
      rw [if_neg hmark] at h
      cases h
      exact ⟨[], .none, rfl⟩

/-- What stands behind the digits of a numeral ends them, and behind those of a fraction as well. -/
theorem SpellsExponent.head?_append (h : SpellsExponent bytes power) (hrest : Stops rest) :
    ∀ b ∈ (bytes ++ rest).head?, Json.isDigitByte b = false ∧ b ≠ 0x2E := by
  cases h with
  | none => exact fun b hb ↦ ⟨(hrest b hb).1, (hrest b hb).2.1⟩
  | power hmark _ _ =>
    intro b hb
    cases hb
    rcases hmark with rfl | rfl <;> decide

theorem SpellsFraction.head?_append (h : SpellsFraction bytes digits)
    (hrest : ∀ b ∈ rest.head?, Json.isDigitByte b = false) :
    ∀ b ∈ (bytes ++ rest).head?, Json.isDigitByte b = false := by
  cases h with
  | none => exact hrest
  | digits h =>
    intro b hb
    cases hb
    rfl

/-- A numeral is read as far as it goes. -/
theorem SpellsNumeral.readNumeral? (h : SpellsNumeral bytes numeral) (hrest : Stops rest) :
    Json.readNumeral? (bytes ++ rest) = some (numeral, rest) := by
  cases h with
  | @parts sign whole fraction exponent _ hsign hwhole hzero hfraction hexponent =>
    have hafter := hexponent.head?_append hrest
    have hspan := hwhole.spanDigits (hfraction.head?_append fun b hb ↦ (hafter b hb).1)
    obtain ⟨first, tail, rfl, hfirst⟩ := hwhole.exists_first
    have hleading : ¬ (numeral.whole.head? = some 0 ∧ 1 < numeral.whole.length) :=
      fun ⟨hhead, hlong⟩ ↦ (Nat.ne_of_gt hlong) (hzero hhead)
    rw [readNumeral?_eq, List.append_assoc, List.append_assoc, List.append_assoc,
      List.cons_append, splitMinus_spells hsign hfirst]
    rw [List.cons_append] at hspan
    dsimp only
    rw [hspan]
    split
    · rename_i hdigits
      exact absurd (congrArg Prod.fst hdigits) hwhole.1
    · rename_i hdigits
      cases hdigits
      rw [if_neg hleading, readFraction?_spells hfraction hafter]
      simp only [Option.bind_eq_bind, Option.bind_some, readExponent?_spells hexponent hrest]
      rfl

theorem exists_spellsNumeral (h : readNumeral? bytes = some (numeral, rest)) :
    ∃ front, SpellsNumeral front numeral ∧ bytes = front ++ rest := by
  rw [readNumeral?_eq] at h
  obtain ⟨sign, hsign, hbytes⟩ := exists_spellsMinus bytes
  split at h
  · cases h
  · rename_i whole after hne hspan
    split at h
    · cases h
    · rename_i hleading
      have hdigits : whole ≠ [] := fun hnil ↦ hne hnil
      obtain ⟨front, hfront, hafter⟩ := exists_spellsDigits hdigits hspan
      simp only [Option.bind_eq_bind, Option.bind_eq_some_iff] at h
      obtain ⟨⟨fractionDigits, behind⟩, hreadFraction, ⟨power, last⟩, hreadExponent, hresult⟩ := h
      cases hresult
      obtain ⟨fraction, hfraction, rfl⟩ := exists_spellsFraction hreadFraction
      obtain ⟨exponent, hexponent, rfl⟩ := exists_spellsExponent hreadExponent
      have hzero : whole.head? = some 0 → whole.length = 1 := by
        intro hhead
        have hpositive := List.length_pos_of_ne_nil hdigits
        have hshort : ¬ 1 < whole.length := fun hlong ↦ hleading ⟨hhead, hlong⟩
        omega
      refine ⟨_, .parts hsign hfront hzero hfraction hexponent, ?_⟩
      simp only [List.append_assoc]
      rw [← hafter, ← hbytes]

end Parts

end Digits

end OverlayGateway.Json
