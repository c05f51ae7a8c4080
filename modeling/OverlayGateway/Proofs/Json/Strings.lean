import OverlayGateway.Json.Value
import OverlayGateway.Proofs.Json.Grammar
import OverlayGateway.Proofs.Text.Utf8
/-!
A written string spells its text. Every character is written as an escape of one letter, as an
escape by number, or as its own bytes, and each of these spells the pieces that stand for the
character (`spellsPieces_escapedChar`). The pieces of all characters are the bytes of the text
(`pieceBytes?_charPieces`), so the text in its quotes spells the text (`spellsString_stringChars`).
-/

set_option autoImplicit false
set_option relaxedAutoImplicit false

namespace OverlayGateway.Json

open Text

/-- The characters that are written by an escape of one letter. -/
def letterEscaped : List Nat := [8, 9, 10, 12, 13, 0x22, 0x5C]

/-- The pieces that a character as it is written spells: a control character without a letter of its
own is a number, any other character its bytes. -/
def charPieces (c : Char) : List Piece :=
  if c.toNat < 32 ∧ c.toNat ∉ letterEscaped then [.unit c.toNat]
  else (String.utf8EncodeChar c).map .byte

/-! ### One character -/

theorem SpellsPieces.append {front back : List UInt8} {first second : List Piece}
    (hfront : SpellsPieces front first) (hback : SpellsPieces back second) :
    SpellsPieces (front ++ back) (first ++ second) := by
  induction hfront with
  | nil => exact hback
  | plain hb _ ih => exact .plain hb ih
  | letter hletter _ ih => exact .letter hletter ih
  | number hunit _ ih => exact .number hunit ih

theorem spellsPieces_plain {bs : List UInt8} (h : ∀ b ∈ bs, IsPlainByte b) :
    SpellsPieces bs (bs.map .byte) := by
  induction bs with
  | nil => exact .nil
  | cons b bs ih =>
    rw [List.forall_mem_cons] at h
    exact .plain h.1 (ih h.2)

theorem isPlainByte_of_mem {c : Char} (hcontrol : 32 ≤ c.toNat) (h : c.toNat ∉ letterEscaped)
    {b : UInt8} (hb : b ∈ String.utf8EncodeChar c) : IsPlainByte b := by
  by_cases hascii : b.toNat < 128
  case neg => exact ⟨by omega, by omega, by omega⟩
  obtain ⟨hvalue, _⟩ := eq_singleton_of_mem hb hascii
  rw [hvalue] at hcontrol h
  refine ⟨hcontrol, ?_, ?_⟩
  · intro hquote
    exact h (hquote ▸ by decide)
  · intro hbackslash
    exact h (hbackslash ▸ by decide)

/-- An escape by number of a character below 32. -/
theorem spellsPieces_number {n : Nat} (h : n < 32) :
    SpellsPieces (bytes ['\\', 'u', '0', '0', hexDigit (n / 16), hexDigit (n % 16)]) [.unit n] := by
  have hdigits : ∀ m : Fin 32,
      bytes ['\\', 'u', '0', '0', hexDigit (m.val / 16), hexDigit (m.val % 16)] =
        [0x5C, 0x75, 0x30, 0x30, UInt8.ofNat (hexDigit (m.val / 16)).toNat,
          UInt8.ofNat (hexDigit (m.val % 16)).toNat] ∧
      unitOf? 0x30 0x30 (UInt8.ofNat (hexDigit (m.val / 16)).toNat)
        (UInt8.ofNat (hexDigit (m.val % 16)).toNat) = some m.val := by
    decide
  obtain ⟨hbytes, hunit⟩ := hdigits ⟨n, h⟩
  rw [hbytes]
  exact .number hunit .nil

theorem spellsPieces_letter {c : Char} (h : c.toNat ∈ letterEscaped) :
    SpellsPieces (bytes (escapedChar c)) (charPieces c) := by
  obtain ⟨n, hn, hc⟩ : ∃ n ∈ letterEscaped, c = Char.ofNat n :=
    ⟨c.toNat, h, (Char.ofNat_toNat c).symm⟩
  subst hc
  simp only [letterEscaped, List.mem_cons, List.not_mem_nil, or_false] at hn
  rcases hn with rfl | rfl | rfl | rfl | rfl | rfl | rfl
  all_goals exact .letter rfl .nil

theorem escapedChar_of_not_mem {c : Char} (h : c.toNat ∉ letterEscaped) : escapedChar c =
    if c.toNat < 32 then
      ['\\', 'u', '0', '0', hexDigit (c.toNat / 16), hexDigit (c.toNat % 16)]
    else [c] := by
  have hquote : c ≠ '"' := fun hc ↦ h (hc ▸ by decide)
  have hbackslash : c ≠ '\\' := fun hc ↦ h (hc ▸ by decide)
  simp only [letterEscaped, List.mem_cons, not_or] at h
  obtain ⟨hb, ht, hn, hf, hr, _⟩ := h
  rw [escapedChar, if_neg hquote, if_neg hbackslash, if_neg hb, if_neg ht, if_neg hn, if_neg hf,
    if_neg hr]

theorem charPieces_of_not_mem {c : Char} (h : c.toNat ∉ letterEscaped) : charPieces c =
    if c.toNat < 32 then [.unit c.toNat] else (String.utf8EncodeChar c).map .byte := by
  simp only [charPieces, h, not_false_eq_true, and_true]

theorem spellsPieces_escapedChar (c : Char) :
    SpellsPieces (bytes (escapedChar c)) (charPieces c) := by
  by_cases hletter : c.toNat ∈ letterEscaped
  case pos => exact spellsPieces_letter hletter
  rw [escapedChar_of_not_mem hletter, charPieces_of_not_mem hletter]
  by_cases hcontrol : c.toNat < 32
  · rw [if_pos hcontrol, if_pos hcontrol]
    exact spellsPieces_number hcontrol
  · rw [if_neg hcontrol, if_neg hcontrol, bytes_cons, bytes_nil, List.append_nil]
    exact spellsPieces_plain fun b hb ↦ isPlainByte_of_mem (Nat.not_lt.1 hcontrol) hletter hb

/-! ### Texts -/

theorem spellsPieces_text (cs : List Char) :
    SpellsPieces (bytes (cs.flatMap escapedChar)) (cs.flatMap charPieces) := by
  induction cs with
  | nil => exact .nil
  | cons c cs ih =>
    rw [List.flatMap_cons, List.flatMap_cons, bytes_append]
    exact (spellsPieces_escapedChar c).append ih

theorem pieceBytes?_bytes (bs : List UInt8) (before : List UInt8) (rest : List Piece) :
    pieceBytes? before (bs.map .byte ++ rest) = pieceBytes? (bs.reverse ++ before) rest := by
  induction bs generalizing before with
  | nil => rfl
  | cons b bs ih =>
    rw [List.map_cons, List.cons_append, pieceBytes?, ih, List.reverse_cons, List.append_assoc]
    rfl

theorem pieceBytes?_char (c : Char) (before : List UInt8) (rest : List Piece) :
    pieceBytes? before (charPieces c ++ rest) =
      pieceBytes? ((String.utf8EncodeChar c).reverse ++ before) rest := by
  unfold charPieces
  split
  · rename_i h
    have hhigh : ¬ (0xD800 ≤ c.toNat ∧ c.toNat < 0xDC00) := by omega
    have hlow : ¬ (0xDC00 ≤ c.toNat ∧ c.toNat < 0xE000) := by omega
    rw [List.cons_append, List.nil_append, pieceBytes?.eq_def]
    dsimp only
    rw [if_neg hhigh, if_neg hlow, Char.ofNat_toNat]
  · exact pieceBytes?_bytes _ before rest

theorem pieceBytes?_charPieces (cs : List Char) (before : List UInt8) :
    pieceBytes? before (cs.flatMap charPieces) = some (before.reverse ++ bytes cs) := by
  induction cs generalizing before with
  | nil => simp [pieceBytes?]
  | cons c cs ih =>
    rw [List.flatMap_cons, pieceBytes?_char, ih, bytes_cons]
    simp

/-- A text in quotes spells that text. -/
theorem spellsString_stringChars (s : String) : SpellsString (bytes (stringChars s)) (some s) := by
  have htext : textOf? (s.toList.flatMap charPieces) = some s := by
    rw [textOf?, pieceBytes?_charPieces]
    exact ofUtf8?_utf8 s
  have hquotes : bytes (stringChars s) =
      0x22 :: (bytes (s.toList.flatMap escapedChar) ++ [0x22]) := by
    rw [stringChars, bytes_cons, bytes_append]
    rfl
  rw [hquotes, ← htext]
  exact .quoted (spellsPieces_text s.toList)

end OverlayGateway.Json
