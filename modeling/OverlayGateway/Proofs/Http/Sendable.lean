import OverlayGateway.Http.Header
import OverlayGateway.Proofs.Text.Utf8
import OverlayGateway.Proofs.Text.Visible
/-!
Texts that a header can hold. A text is one if and only if none of its characters is a control, a
tab excepted: the bytes of a character beyond ASCII are all beyond ASCII, and every other character
is its own byte.
-/

set_option autoImplicit false
set_option relaxedAutoImplicit false

namespace OverlayGateway.Http

/-- Whether a text can be the value of a header. -/
def Sendable (text : String) : Prop := ∃ value, HeaderValue.ofString? text = some value

/-- The characters that a header can hold: all but the controls of ASCII, and the tab. -/
def IsSendableChar (c : Char) : Prop := (0x20 ≤ c.toNat ∧ c.toNat ≠ 0x7F) ∨ c.toNat = 0x09

theorem ofString?_eq_none_iff {text : String} :
    HeaderValue.ofString? text = none ↔ ¬ Sendable text := by
  rw [Sendable, ← Option.isSome_iff_exists, Option.not_isSome_iff_eq_none]

theorem sendable_iff_bytes {text : String} :
    Sendable text ↔ ∀ b ∈ Text.utf8 text, isValueByte b = true := by
  unfold Sendable HeaderValue.ofString? HeaderValue.ofBytes?
  rw [← List.all_eq_true]
  split
  · rename_i hbytes
    exact iff_of_true ⟨_, rfl⟩ hbytes
  · rename_i hbytes
    refine iff_of_false ?_ hbytes
    rintro ⟨value, hvalue⟩
    cases hvalue

theorem isValueByte_iff {b : UInt8} :
    isValueByte b = true ↔ (0x20 ≤ b.toNat ∧ b.toNat ≠ 0x7F) ∨ b.toNat = 0x09 := by
  simp only [isValueByte, Bool.or_eq_true, Bool.and_eq_true, decide_eq_true_eq, bne_iff_ne,
    beq_iff_eq, ne_eq, ← UInt8.toNat_inj, UInt8.le_iff_toNat_le]
  exact Iff.rfl

theorem isSendableChar_iff {c : Char} :
    IsSendableChar c ↔ ∀ b ∈ String.utf8EncodeChar c, isValueByte b = true := by
  unfold IsSendableChar
  by_cases hascii : c.toNat < 128
  · have htoNat : (UInt8.ofNat c.toNat).toNat = c.toNat :=
      UInt8.toNat_ofNat_of_lt' (Nat.lt_of_lt_of_le hascii (by decide))
    rw [Text.utf8EncodeChar_of_ascii hascii, List.forall_mem_singleton, isValueByte_iff, htoNat]
  · rw [Nat.not_lt] at hascii
    refine iff_of_true (Or.inl (by omega)) fun b hb ↦ isValueByte_iff.2 (Or.inl ?_)
    have hb := Text.le_of_mem_utf8EncodeChar hascii hb
    omega

theorem sendable_iff {text : String} :
    Sendable text ↔ ∀ c ∈ text.toList, IsSendableChar c := by
  rw [sendable_iff_bytes]
  simp only [Text.utf8, List.mem_flatMap, isSendableChar_iff]
  constructor
  · exact fun h c hc b hb ↦ h b ⟨c, hc, hb⟩
  · rintro h b ⟨c, hc, hb⟩
    exact h c hc b hb

/-- Whether the encoding of a text holds a control of ASCII other than the tab. -/
def HasControl (text : String) : Prop := ∃ b ∈ Text.utf8 text, (b < 0x20 ∧ b ≠ 0x09) ∨ b = 0x7F

theorem not_isValueByte_iff {b : UInt8} :
    ¬ isValueByte b = true ↔ (b < 0x20 ∧ b ≠ 0x09) ∨ b = 0x7F := by
  rw [isValueByte_iff]
  simp only [ne_eq, ← UInt8.toNat_inj, UInt8.lt_iff_toNat_lt]
  change ¬ _ ↔ (b.toNat < 0x20 ∧ ¬ b.toNat = 0x09) ∨ b.toNat = 0x7F
  omega

theorem not_sendable_iff {text : String} : ¬ Sendable text ↔ HasControl text := by
  simp only [sendable_iff_bytes, HasControl, Classical.not_forall, exists_prop,
    not_isValueByte_iff]

theorem sendable_of_visible {text : String} (h : Text.Visible text) : Sendable text := by
  refine sendable_iff.2 fun c hc ↦ ?_
  obtain ⟨hlow, hhigh⟩ := h c hc
  exact Or.inl ⟨hlow, by omega⟩

theorem Sendable.append {first second : String} (hfirst : Sendable first)
    (hsecond : Sendable second) : Sendable (first ++ second) := by
  refine sendable_iff.2 fun c hc ↦ ?_
  rw [String.toList_append, List.mem_append] at hc
  exact hc.elim (sendable_iff.1 hfirst c) (sendable_iff.1 hsecond c)

theorem sendable_empty : Sendable "" :=
  sendable_of_visible fun c hc ↦ by simp at hc

theorem Sendable.intercalate {sep : String} (hsep : Sendable sep) {parts : List String}
    (hparts : ∀ part ∈ parts, Sendable part) : Sendable (sep.intercalate parts) := by
  induction parts with
  | nil => exact sendable_empty
  | cons part parts ih =>
    rw [List.forall_mem_cons] at hparts
    by_cases hnil : parts = []
    · rw [hnil, String.intercalate_singleton]
      exact hparts.1
    · rw [String.intercalate_cons_of_ne_nil hnil]
      exact (hparts.1.append hsep).append (ih hparts.2)

theorem isReadableByte_iff {b : UInt8} :
    isReadableByte b = true ↔ (0x20 ≤ b.toNat ∧ b.toNat < 0x7F) ∨ b.toNat = 0x09 := by
  simp only [isReadableByte, Bool.or_eq_true, Bool.and_eq_true, decide_eq_true_eq, beq_iff_eq,
    ← UInt8.toNat_inj, UInt8.le_iff_toNat_le, UInt8.lt_iff_toNat_lt]
  exact Iff.rfl

/-- What can be read off a value can be sent again. -/
theorem sendable_of_readable? {value : HeaderValue} {text : String}
    (h : value.readable? = some text) : Sendable text := by
  unfold HeaderValue.readable? at h
  split at h
  · rename_i hreadable
    rw [List.all_eq_true] at hreadable
    cases h
    refine sendable_iff.2 fun c hc ↦ ?_
    rw [String.toList_ofList, List.mem_map] at hc
    obtain ⟨b, hb, rfl⟩ := hc
    have hbyte := isReadableByte_iff.1 (hreadable b hb)
    rw [IsSendableChar, Text.toNat_ofNat_toNat]
    omega
  · cases h

end OverlayGateway.Http
