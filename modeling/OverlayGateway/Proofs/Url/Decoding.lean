import OverlayGateway.Proofs.Url.Percent
/-!
Decoding a text character by character. A percent sign with two digits of base 16 behind it stands
for one byte; every other character stands for its own bytes, so what is decoded of a text can be
read off its characters. An encoding that leaves percent signs and digits alone makes no new such
triple and breaks none: the encoded text is decoded to the same bytes.
-/

set_option autoImplicit false
set_option relaxedAutoImplicit false

namespace OverlayGateway.Percent

open Text (bytes bytes_append bytes_cons)

/-! ### Digits -/

/-- Digits of base 16 are characters of ASCII. -/
theorem lt_of_hexValue? {c : Char} {n : Nat} (h : Text.hexValue? c = some n) : c.toNat < 128 := by
  unfold Text.hexValue? at h
  have hle {last : Char} (hlast : last.toNat < 128) (hc : c ≤ last) : c.toNat < 128 :=
    Nat.lt_of_le_of_lt (UInt32.le_iff_toNat_le.1 hc) hlast
  split at h
  · rename_i hdigit
    exact hle (by decide) hdigit.2
  · split at h
    · rename_i hsmall
      exact hle (by decide) hsmall.2
    · split at h
      · rename_i hcapital
        exact hle (by decide) hcapital.2
      · cases h

theorem hexOf?_of_toNat_eq {b : UInt8} {c : Char} (h : c.toNat = b.toNat) :
    hexOf? b = Text.hexValue? c := by
  rw [hexOf?, ← h, Char.ofNat_toNat]

theorem lt_of_hexOf? {b : UInt8} {n : Nat} (h : hexOf? b = some n) : b.toNat < 128 :=
  Text.toNat_ofNat_toNat b ▸ lt_of_hexValue? h

/-- A text whose bytes start with that of a digit starts with the digit. -/
theorem exists_digit_of_bytes {cs : List Char} {b : UInt8} {rest : List UInt8} {n : Nat}
    (h : bytes cs = b :: rest) (hb : hexOf? b = some n) :
    ∃ c tail, cs = c :: tail ∧ Text.hexValue? c = some n ∧ bytes tail = rest := by
  obtain ⟨c, tail, hcs, hvalue, htail⟩ := Text.exists_cons_of_bytes h (lt_of_hexOf? hb)
  exact ⟨c, tail, hcs, hexOf?_of_toNat_eq hvalue ▸ hb, htail⟩

theorem bytes_cons_of_hexValue? {c : Char} {n : Nat} (h : Text.hexValue? c = some n)
    (cs : List Char) : ∃ b, bytes (c :: cs) = b :: bytes cs ∧ hexOf? b = some n := by
  have hascii := lt_of_hexValue? h
  refine ⟨UInt8.ofNat c.toNat, ?_, ?_⟩
  · rw [bytes_cons, Text.utf8EncodeChar_of_ascii hascii, List.singleton_append]
  · rw [hexOf?_of_toNat_eq, h]
    exact (UInt8.toNat_ofNat_of_lt' (Nat.lt_of_lt_of_le hascii (by decide))).symm

/-! ### Escapes -/

/-- Whether a text starts with the escape of a byte, and goes on with `rest`. -/
def Escapes (cs : List Char) (b : UInt8) (rest : List Char) : Prop :=
  ∃ first second high low, cs = '%' :: first :: second :: rest ∧
    Text.hexValue? first = some high ∧ Text.hexValue? second = some low ∧
      b = UInt8.ofNat (high * 16 + low)

theorem bytes_percent_cons (cs : List Char) : bytes ('%' :: cs) = 0x25 :: bytes cs := by
  rw [bytes_cons]
  rfl

/-- An escape stands for its byte. -/
theorem decode_of_escapes {cs rest : List Char} {b : UInt8} (h : Escapes cs b rest) :
    decode (bytes cs) = b :: decode (bytes rest) := by
  obtain ⟨first, second, high, low, rfl, hfirst, hsecond, rfl⟩ := h
  obtain ⟨d, hd, hhigh⟩ := bytes_cons_of_hexValue? hfirst (second :: rest)
  obtain ⟨e, he, hlow⟩ := bytes_cons_of_hexValue? hsecond rest
  rw [bytes_percent_cons, hd, he, decode, if_pos rfl, hhigh, hlow]

/-- A character that starts no escape stands for its own bytes. -/
theorem decode_of_not_escapes {c : Char} {cs : List Char}
    (h : ∀ b rest, ¬ Escapes (c :: cs) b rest) :
    decode (bytes (c :: cs)) = String.utf8EncodeChar c ++ decode (bytes cs) := by
  by_cases hc : c = '%'
  · subst hc
    rw [bytes_percent_cons]
    show decode (0x25 :: bytes cs) = 0x25 :: decode (bytes cs)
    match hbytes : bytes cs with
    | [] => rfl
    | [_] => rfl
    | d :: e :: more =>
      rw [decode, if_pos rfl]
      cases hhigh : hexOf? d with
      | none => rfl
      | some high =>
        cases hlow : hexOf? e with
        | none => rfl
        | some low =>
          obtain ⟨first, tail, rfl, hfirst, htail⟩ := exists_digit_of_bytes hbytes hhigh
          obtain ⟨second, rest, rfl, hsecond, _⟩ := exists_digit_of_bytes htail hlow
          exact absurd ⟨first, second, high, low, rfl, hfirst, hsecond, rfl⟩ (h _ rest)
  · rw [bytes_cons]
    exact decode_append (fun b hb ↦ ne_of_mem_utf8EncodeChar hc hb) _

/-! ### Encodings that leave escapes alone -/

section Encoding

variable {isEncoded : Char → Bool}

/-- An encoding that writes percent signs and digits of base 16 as they are. -/
structure SparesEscapes (isEncoded : Char → Bool) : Prop where
  percent : isEncoded '%' = false
  digits : ∀ c n, Text.hexValue? c = some n → isEncoded c = false

/-- What an encoded text starts with, other than a percent sign, is not encoded. -/
theorem exists_cons_of_encode {cs tail : List Char} {c : Char}
    (h : encode isEncoded cs = c :: tail) (hc : c ≠ '%') :
    ∃ rest, cs = c :: rest ∧ encode isEncoded rest = tail := by
  cases cs with
  | nil => cases h
  | cons first rest =>
    rw [encode_cons] at h
    by_cases hfirst : isEncoded first = true
    · obtain ⟨b, more, hescape, _⟩ := encodeChar_eq_cons hfirst
      rw [hescape, List.cons_append, List.cons.injEq] at h
      exact absurd h.1.symm hc
    · rw [encodeChar_of_not (Bool.eq_false_iff.2 hfirst), List.singleton_append,
        List.cons.injEq] at h
      exact ⟨rest, by rw [h.1], h.2⟩

theorem ne_percent_of_hexValue? {c : Char} {n : Nat} (h : Text.hexValue? c = some n) :
    c ≠ '%' := by
  rintro rfl
  cases h

theorem encode_of_escapes (hspares : SparesEscapes isEncoded) {cs rest : List Char} {b : UInt8}
    (h : Escapes cs b rest) : Escapes (encode isEncoded cs) b (encode isEncoded rest) := by
  obtain ⟨first, second, high, low, rfl, hfirst, hsecond, rfl⟩ := h
  refine ⟨first, second, high, low, ?_, hfirst, hsecond, rfl⟩
  rw [encode_cons, encode_cons, encode_cons, encodeChar_of_not hspares.percent,
    encodeChar_of_not (hspares.digits _ _ hfirst), encodeChar_of_not (hspares.digits _ _ hsecond)]
  rfl

/-- Encoding what follows a character makes no escape that was not there. -/
theorem escapes_of_encode {c : Char} {cs tail : List Char} {b : UInt8}
    (h : Escapes (c :: encode isEncoded cs) b tail) : ∃ rest, Escapes (c :: cs) b rest := by
  obtain ⟨first, second, high, low, hcs, hfirst, hsecond, rfl⟩ := h
  rw [List.cons.injEq] at hcs
  obtain ⟨rfl, hcs⟩ := hcs
  obtain ⟨after, rfl, hafter⟩ := exists_cons_of_encode hcs (ne_percent_of_hexValue? hfirst)
  obtain ⟨rest, rfl, _⟩ := exists_cons_of_encode hafter (ne_percent_of_hexValue? hsecond)
  exact ⟨rest, first, second, high, low, rfl, hfirst, hsecond, rfl⟩

theorem decode_encode (hspares : SparesEscapes isEncoded) (cs : List Char) :
    decode (bytes (encode isEncoded cs)) = decode (bytes cs) := by
  induction hlength : cs.length using Nat.strongRecOn generalizing cs with
  | ind length ih =>
    subst hlength
    by_cases hescapes : ∃ b rest, Escapes cs b rest
    · obtain ⟨b, rest, hescapes⟩ := hescapes
      have hshorter : rest.length < cs.length := by
        obtain ⟨_, _, _, _, rfl, _⟩ := hescapes
        simp only [List.length_cons]
        omega
      rw [decode_of_escapes hescapes, decode_of_escapes (encode_of_escapes hspares hescapes),
        ih _ hshorter rest rfl]
    · cases cs with
      | nil => rfl
      | cons c cs =>
        have hrest := ih _ (Nat.lt_succ_self cs.length) cs rfl
        have hnone : ∀ b rest, ¬ Escapes (c :: cs) b rest :=
          fun b rest h ↦ hescapes ⟨b, rest, h⟩
        rw [decode_of_not_escapes hnone, encode_cons]
        by_cases hc : isEncoded c = true
        · rw [encodeChar, if_pos hc, bytes_append, ← hrest]
          exact decode_flatMap_encodeByte _ _
        · rw [encodeChar_of_not (Bool.eq_false_iff.2 hc), List.singleton_append,
            decode_of_not_escapes, hrest]
          intro b tail h
          obtain ⟨rest, h⟩ := escapes_of_encode h
          exact hnone b rest h

theorem decodeText_ofList_encode (hspares : SparesEscapes isEncoded) (s : String) :
    decodeText (String.ofList (encode isEncoded s.toList)) = decodeText s := by
  rw [decodeText, Text.utf8_eq_bytes, String.toList_ofList, decode_encode hspares]
  rfl

/-- An encoding spares escapes if it encodes none of the characters that they consist of. -/
theorem sparesEscapes_of_all
    (h : ("%0123456789abcdefABCDEF".toList.all fun c ↦ !isEncoded c) = true) :
    SparesEscapes isEncoded := by
  have hspared : ∀ c ∈ "%0123456789abcdefABCDEF".toList, isEncoded c = false := by
    intro c hc
    simpa using List.all_eq_true.1 h c hc
  refine ⟨hspared '%' (by decide), fun c n hc ↦ hspared c ?_⟩
  have hdigits : ∀ m : Fin 128, (Text.hexValue? (Char.ofNat m.val)).isSome = true →
      Char.ofNat m.val ∈ "%0123456789abcdefABCDEF".toList := by decide
  have hmem := hdigits ⟨c.toNat, lt_of_hexValue? hc⟩
  rw [Char.ofNat_toNat, hc] at hmem
  exact hmem rfl

end Encoding

theorem sparesEscapes_inPath : SparesEscapes inPath := sparesEscapes_of_all (by decide)

theorem sparesEscapes_inSpecialQuery : SparesEscapes inSpecialQuery :=
  sparesEscapes_of_all (by decide)

end OverlayGateway.Percent
