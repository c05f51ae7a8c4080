import OverlayGateway.Text.Utf8
/-!
The bytes of a text, character by character. A character of ASCII is its own byte; every byte of any
other character lies beyond ASCII. So the ASCII characters of a text are found in its bytes, each at
its place, and nothing else looks like one.
-/

set_option autoImplicit false
set_option relaxedAutoImplicit false

namespace OverlayGateway.Text

/-- The bytes of a list of characters. -/
def bytes (cs : List Char) : List UInt8 := cs.flatMap String.utf8EncodeChar

theorem utf8_eq_bytes (s : String) : utf8 s = bytes s.toList := rfl

@[simp] theorem bytes_nil : bytes [] = [] := rfl

theorem bytes_cons (c : Char) (cs : List Char) :
    bytes (c :: cs) = String.utf8EncodeChar c ++ bytes cs :=
  List.flatMap_cons

theorem bytes_append (front back : List Char) : bytes (front ++ back) = bytes front ++ bytes back :=
  List.flatMap_append

/-- Every byte is the number of a character. -/
theorem toNat_ofNat_toNat (b : UInt8) : (Char.ofNat b.toNat).toNat = b.toNat := by
  have hvalid : b.toNat.isValidChar := Or.inl (Nat.lt_trans b.toNat_lt (by decide))
  rw [Char.ofNat, dif_pos hvalid]
  rfl

theorem utf8EncodeChar_of_ascii {c : Char} (h : c.toNat < 128) :
    String.utf8EncodeChar c = [UInt8.ofNat c.toNat] := by
  have hle : c.val.toNat ≤ 0x7F := Nat.le_of_lt_succ h
  unfold String.utf8EncodeChar
  rw [if_pos hle]
  rfl

theorem bytes_of_ascii {cs : List Char} (h : ∀ c ∈ cs, c.toNat < 128) :
    bytes cs = cs.map fun c ↦ UInt8.ofNat c.toNat := by
  induction cs with
  | nil => rfl
  | cons c cs ih =>
    rw [List.forall_mem_cons] at h
    rw [bytes_cons, utf8EncodeChar_of_ascii h.1, ih h.2, List.map_cons, List.singleton_append]

theorem le_ofNat {n : Nat} (hlow : 128 ≤ n) (hhigh : n < 256) : 128 ≤ (UInt8.ofNat n).toNat := by
  rwa [UInt8.toNat_ofNat_of_lt' hhigh]

/-- Beyond ASCII, every byte of a character has its highest bit set. -/
theorem le_of_mem_utf8EncodeChar {c : Char} (h : 128 ≤ c.toNat) {b : UInt8}
    (hb : b ∈ String.utf8EncodeChar c) : 128 ≤ b.toNat := by
  have hval : 128 ≤ c.val.toNat := h
  revert b
  unfold String.utf8EncodeChar
  rw [if_neg (Nat.not_le.2 hval)]
  split
  · simp only [List.forall_mem_cons, List.not_mem_nil, false_imp_iff, implies_true, and_true]
    exact ⟨le_ofNat (by omega) (by omega), le_ofNat (by omega) (by omega)⟩
  · split
    · simp only [List.forall_mem_cons, List.not_mem_nil, false_imp_iff, implies_true, and_true]
      exact ⟨le_ofNat (by omega) (by omega), le_ofNat (by omega) (by omega),
        le_ofNat (by omega) (by omega)⟩
    · simp only [List.forall_mem_cons, List.not_mem_nil, false_imp_iff, implies_true, and_true]
      exact ⟨le_ofNat (by omega) (by omega), le_ofNat (by omega) (by omega),
        le_ofNat (by omega) (by omega), le_ofNat (by omega) (by omega)⟩

theorem utf8EncodeChar_ne_nil (c : Char) : String.utf8EncodeChar c ≠ [] := by
  by_cases h : c.toNat < 128
  · rw [utf8EncodeChar_of_ascii h]
    exact List.cons_ne_nil _ _
  · unfold String.utf8EncodeChar
    dsimp only
    split
    · exact List.cons_ne_nil _ _
    · split
      · exact List.cons_ne_nil _ _
      · split <;> exact List.cons_ne_nil _ _

/-- A character with a byte of ASCII is that byte. -/
theorem eq_singleton_of_mem {c : Char} {b : UInt8} (hb : b ∈ String.utf8EncodeChar c)
    (hascii : b.toNat < 128) : c.toNat = b.toNat ∧ String.utf8EncodeChar c = [b] := by
  by_cases h : c.toNat < 128
  · have hsingle := utf8EncodeChar_of_ascii h
    rw [hsingle, List.mem_singleton] at hb
    rw [hb]
    exact ⟨(UInt8.toNat_ofNat_of_lt' (Nat.lt_of_lt_of_le h (by decide))).symm, hsingle⟩
  · exact absurd (le_of_mem_utf8EncodeChar (Nat.not_lt.1 h) hb) (Nat.not_le.2 hascii)

/-- A text whose bytes start with one of ASCII starts with that character. -/
theorem exists_cons_of_bytes {cs : List Char} {b : UInt8} {rest : List UInt8}
    (h : bytes cs = b :: rest) (hascii : b.toNat < 128) :
    ∃ c tail, cs = c :: tail ∧ c.toNat = b.toNat ∧ bytes tail = rest := by
  cases cs with
  | nil => cases h
  | cons c tail =>
    obtain ⟨first, others, hfirst⟩ := List.exists_cons_of_ne_nil (utf8EncodeChar_ne_nil c)
    rw [bytes_cons, hfirst, List.cons_append, List.cons.injEq] at h
    have hmem : b ∈ String.utf8EncodeChar c := by
      rw [hfirst, h.1]
      exact List.mem_cons_self
    obtain ⟨hvalue, hsingle⟩ := eq_singleton_of_mem hmem hascii
    rw [hsingle, List.cons.injEq] at hfirst
    refine ⟨c, tail, rfl, hvalue, ?_⟩
    rw [← h.2, ← hfirst.2, List.nil_append]

/-! ### Arrays of bytes -/

theorem toList_loop (array : ByteArray) (i : Nat) (before : List UInt8) :
    ByteArray.toList.loop array i before = before.reverse ++ array.data.toList.drop i := by
  induction i, before using ByteArray.toList.loop.induct array with
  | case1 i before hlt ih =>
    have hi : i < array.data.toList.length := hlt
    have hget : array.get! i = array.data.toList[i] := getElem!_pos array.data i hlt
    rw [ByteArray.toList.loop, if_pos hlt, ih, List.drop_eq_getElem_cons hi, hget,
      List.reverse_cons, List.append_assoc, List.singleton_append]
  | case2 i before hge =>
    have hi : array.data.toList.length ≤ i := Nat.not_lt.1 hge
    rw [ByteArray.toList.loop, if_neg hge, List.drop_eq_nil_of_le hi, List.append_nil]

/-- The bytes of a text, one by one. -/
theorem toList_toUTF8 (s : String) : s.toUTF8.toList = utf8 s := by
  rw [String.toUTF8_eq_toByteArray, ← toByteArray_utf8 s, ByteArray.toList, toList_loop,
    List.data_toByteArray]
  rfl

end OverlayGateway.Text
