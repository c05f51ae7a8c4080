import OverlayGateway.Proofs.Text.Utf8
import OverlayGateway.Url.Percent
/-!
Encoded texts. A text without characters to encode stays as it is; in an encoded text every
character is one that may stand there or belongs to an encoded byte. The first byte of a character
says which ASCII character it is, if it is one. Decoding undoes encoding.
-/

set_option autoImplicit false
set_option relaxedAutoImplicit false

namespace OverlayGateway.Percent

variable {isEncoded : Char → Bool}

theorem encode_cons (c : Char) (cs : List Char) :
    encode isEncoded (c :: cs) = encodeChar isEncoded c ++ encode isEncoded cs :=
  List.flatMap_cons

theorem encode_append (cs ds : List Char) :
    encode isEncoded (cs ++ ds) = encode isEncoded cs ++ encode isEncoded ds :=
  List.flatMap_append

theorem encodeChar_of_not {c : Char} (h : isEncoded c = false) : encodeChar isEncoded c = [c] := by
  rw [encodeChar, if_neg (by simp [h])]

theorem encode_of_forall {cs : List Char} (h : ∀ c ∈ cs, isEncoded c = false) :
    encode isEncoded cs = cs := by
  induction cs with
  | nil => rfl
  | cons c cs ih =>
    rw [List.forall_mem_cons] at h
    rw [encode_cons, encodeChar_of_not h.1, ih h.2, List.singleton_append]

/-- The characters that encoded bytes consist of. -/
def isEscape (c : Char) : Bool := c = '%' || "0123456789ABCDEF".toList.contains c

theorem isEscape_digit {n : Nat} (h : n < 16) : isEscape (digit n) = true := by
  have hdigits : ∀ m : Fin 16, isEscape (digit m.val) = true := by decide
  exact hdigits ⟨n, h⟩

theorem of_mem_encode {cs : List Char} {c : Char} (h : c ∈ encode isEncoded cs) :
    (c ∈ cs ∧ isEncoded c = false) ∨ isEscape c = true := by
  obtain ⟨source, hsource, hc⟩ := List.mem_flatMap.1 h
  unfold encodeChar at hc
  split at hc
  · obtain ⟨b, _, hc⟩ := List.mem_flatMap.1 hc
    have hb := b.toNat_lt
    rcases List.mem_cons.1 hc with rfl | hc
    · exact Or.inr (by decide)
    · rcases List.mem_cons.1 hc with rfl | hc
      · exact Or.inr (isEscape_digit (by omega))
      · rw [List.mem_singleton] at hc
        exact Or.inr (hc ▸ isEscape_digit (by omega))
  · rename_i hsafe
    rw [List.mem_singleton] at hc
    exact Or.inl ⟨hc ▸ hsource, hc ▸ Bool.eq_false_iff.2 hsafe⟩

/-- An encoded character starts with its first byte; that byte is below 128 for ASCII characters
only, and then it is the character. -/
theorem encodeChar_eq_cons {c : Char} (h : isEncoded c = true) :
    ∃ (b : UInt8) (rest : List Char),
      encodeChar isEncoded c = '%' :: digit (b.toNat / 16) :: digit (b.toNat % 16) :: rest ∧
        (b.toNat < 128 → c.toNat = b.toNat) := by
  rw [encodeChar, if_pos h]
  unfold String.utf8EncodeChar
  dsimp only
  split
  · rename_i hascii
    refine ⟨_, _, rfl, fun _ ↦ ?_⟩
    show c.val.toNat = _
    rw [UInt8.toNat_ofNat']
    omega
  · split
    · refine ⟨_, _, rfl, fun hlow ↦ ?_⟩
      rw [UInt8.toNat_ofNat'] at hlow
      omega
    · split
      · refine ⟨_, _, rfl, fun hlow ↦ ?_⟩
        rw [UInt8.toNat_ofNat'] at hlow
        omega
      · refine ⟨_, _, rfl, fun hlow ↦ ?_⟩
        rw [UInt8.toNat_ofNat'] at hlow
        omega

/-! ### Decoding -/

theorem decode_cons_of_ne {b : UInt8} (h : b ≠ 0x25) (rest : List UInt8) :
    decode (b :: rest) = b :: decode rest := by
  match rest with
  | [] => rfl
  | [_] => rfl
  | _ :: _ :: _ => rw [decode, if_neg h]

theorem decode_append {bytes : List UInt8} (h : ∀ b ∈ bytes, b ≠ 0x25) (rest : List UInt8) :
    decode (bytes ++ rest) = bytes ++ decode rest := by
  induction bytes with
  | nil => rfl
  | cons b bytes ih =>
    rw [List.forall_mem_cons] at h
    rw [List.cons_append, decode_cons_of_ne h.1, ih h.2, List.cons_append]

theorem utf8EncodeChar_digit {n : Nat} (h : n < 16) :
    ∃ b, String.utf8EncodeChar (digit n) = [b] ∧ hexOf? b = some n := by
  have hdigits : ∀ m : Fin 16, ∃ b, String.utf8EncodeChar (digit m.val) = [b] ∧
      hexOf? b = some m.val := by
    intro m
    refine ⟨(String.utf8EncodeChar (digit m.val)).headD 0, ?_⟩
    revert m
    decide
  exact hdigits ⟨n, h⟩

theorem decode_encodeByte (b : UInt8) (rest : List UInt8) :
    decode ((encodeByte b).flatMap String.utf8EncodeChar ++ rest) = b :: decode rest := by
  have hb := b.toNat_lt
  obtain ⟨high, hhigh, hhighValue⟩ := utf8EncodeChar_digit (n := b.toNat / 16) (by omega)
  obtain ⟨low, hlow, hlowValue⟩ := utf8EncodeChar_digit (n := b.toNat % 16) (by omega)
  have hpercent : String.utf8EncodeChar '%' = [0x25] := by decide
  have hvalue : UInt8.ofNat (b.toNat / 16 * 16 + b.toNat % 16) = b := by
    rw [Nat.div_add_mod', UInt8.ofNat_toNat]
  simp [encodeByte, hpercent, hhigh, hlow, decode, hhighValue, hlowValue, hvalue]

theorem decode_flatMap_encodeByte (bytes rest : List UInt8) :
    decode ((bytes.flatMap encodeByte).flatMap String.utf8EncodeChar ++ rest) =
      bytes ++ decode rest := by
  induction bytes with
  | nil => rfl
  | cons b bytes ih =>
    rw [List.flatMap_cons, List.flatMap_append, List.append_assoc, decode_encodeByte, ih,
      List.cons_append]

/-- The bytes of a character are no percent sign, unless the character is. -/
theorem ne_of_mem_utf8EncodeChar {c : Char} (hc : c ≠ '%') {b : UInt8}
    (h : b ∈ String.utf8EncodeChar c) : b ≠ 0x25 := by
  rintro rfl
  exact hc (Char.toNat_inj.1 (Text.eq_singleton_of_mem h (by decide)).1)

theorem decode_encodeChar (hpercent : isEncoded '%' = true) (c : Char) (rest : List UInt8) :
    decode ((encodeChar isEncoded c).flatMap String.utf8EncodeChar ++ rest) =
      String.utf8EncodeChar c ++ decode rest := by
  unfold encodeChar
  split
  · exact decode_flatMap_encodeByte _ rest
  · rename_i hsafe
    have hc : c ≠ '%' := by
      rintro rfl
      exact hsafe hpercent
    rw [List.flatMap_singleton]
    exact decode_append (fun b hb ↦ ne_of_mem_utf8EncodeChar hc hb) rest

/-- Decoding undoes encoding, if percent signs are encoded. -/
theorem decodeText_encode (hpercent : isEncoded '%' = true) (s : String) :
    decodeText (String.ofList (encode isEncoded s.toList)) = Text.utf8 s := by
  rw [decodeText, Text.utf8, String.toList_ofList, Text.utf8]
  induction s.toList with
  | nil => rfl
  | cons c cs ih =>
    rw [encode_cons, List.flatMap_append, decode_encodeChar hpercent, ih, List.flatMap_cons]

end OverlayGateway.Percent
