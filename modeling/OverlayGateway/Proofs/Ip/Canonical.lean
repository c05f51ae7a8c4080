import OverlayGateway.Proofs.Ip.RoundTrip
/-!
The texts of canonical addresses. A canonical address is one of version 4, or one of version 6 that
maps none. It has exactly one spelling among the texts that denote it: lower-case digits between
dots and colons, without a number that starts with a superfluous zero, and never the one that shows
a mapped address.
-/

set_option autoImplicit false
set_option relaxedAutoImplicit false

namespace OverlayGateway.Ip

/-! ### What addresses are written in -/

def isAddressChar (c : Char) : Bool := "0123456789abcdef.:".toList.contains c

/-- Whether a number has a leading zero, one with a digit behind it. `fresh` says whether a number
may begin here; another one may begin after each dot and each colon. -/
def hasLeadingZero (fresh : Bool) : List Char → Bool
  | [] => false
  | c :: cs => (fresh && c == '0' && cs.head?.any isHex) || hasLeadingZero (c == '.' || c == ':') cs

theorem hasLeadingZero_colon (cs : List Char) :
    hasLeadingZero false (':' :: cs) = hasLeadingZero true cs := rfl

theorem hasLeadingZero_dot (cs : List Char) :
    hasLeadingZero false ('.' :: cs) = hasLeadingZero true cs := rfl

theorem hasLeadingZero_digits {digits : List Char} (hdigits : ∀ c ∈ digits, isHex c = true)
    (rest : List Char) : hasLeadingZero false (digits ++ rest) = hasLeadingZero false rest := by
  induction digits with
  | nil => rfl
  | cons c cs ih =>
    rw [List.forall_mem_cons] at hdigits
    have hdot : c ≠ '.' := by
      rintro rfl
      exact absurd hdigits.1 (by decide)
    have hcolon : c ≠ ':' := by
      rintro rfl
      exact absurd hdigits.1 (by decide)
    rw [List.cons_append, hasLeadingZero, beq_eq_false_iff_ne.2 hdot, beq_eq_false_iff_ne.2 hcolon]
    exact ih hdigits.2

/-- A written number has no leading zero, as zero itself has a single digit. -/
theorem hasLeadingZero_number {base : Nat} (hbase : 1 < base) (hlimit : base ≤ 16) (n : Nat)
    {rest : List Char} (hrest : rest.takeWhile isHex = []) :
    hasLeadingZero true (Nat.toDigits base n ++ rest) = hasLeadingZero false rest := by
  have hdigits : ∀ c ∈ Nat.toDigits base n, isHex c = true := by
    intro c hc
    obtain ⟨d, hd, rfl⟩ := mem_toDigits hbase hc
    rw [isHex, hexValue?_digitChar (Nat.lt_of_lt_of_le hd hlimit)]
    rfl
  have hlast : rest.head?.any isHex = false := by
    cases rest with
    | nil => rfl
    | cons c rest =>
      cases hc : isHex c with
      | false => exact hc
      | true => simp [hc] at hrest
  have hmore := hasLeadingZero_digits hdigits rest
  rcases Nat.eq_zero_or_pos n with rfl | hn
  · rw [Nat.toDigits_zero] at hmore ⊢
    rw [List.singleton_append, hasLeadingZero] at hmore ⊢
    rwa [hlast, Bool.and_false]
  · have hfront := head?_toDigits hbase hlimit hn
    cases hcs : Nat.toDigits base n with
    | nil => exact absurd hcs Nat.toDigits_ne_nil
    | cons c cs =>
      rw [hcs] at hmore hfront
      have hzero : (c == '0') = false := beq_eq_false_iff_ne.2 fun h ↦ hfront (congrArg some h)
      rw [List.cons_append, hasLeadingZero] at hmore ⊢
      rwa [hzero, Bool.and_false, Bool.false_and]

theorem hasLeadingZero_tailChars {rest : List Char} (h : Stops rest) (groups : List UInt16) :
    hasLeadingZero false (tailChars groups ++ rest) = hasLeadingZero false rest := by
  induction groups with
  | nil => rfl
  | cons group groups ih =>
    have hnumber := hasLeadingZero_number (by decide : 1 < 16) (by decide) group.toNat
      (h.takeWhile (by decide) groups)
    rw [tailChars, List.flatMap_cons, ← tailChars, List.append_assoc, List.cons_append,
      hasLeadingZero_colon, hnumber, ih]

theorem hasLeadingZero_groupsText {rest : List Char} (h : Stops rest) (groups : List UInt16) :
    hasLeadingZero true ((groupsText groups).toList ++ rest) = hasLeadingZero false rest := by
  cases groups with
  | nil => rcases h with rfl | ⟨more, rfl⟩ <;> rfl
  | cons group groups =>
    rw [toList_groupsText, List.append_assoc, hasLeadingZero_number (by decide) (by decide) _
      (h.takeWhile (by decide) groups), hasLeadingZero_tailChars h]

theorem V4.not_hasLeadingZero (address : V4) :
    hasLeadingZero true address.text.toList = false := by
  have hdot (cs : List Char) : ('.' :: cs).takeWhile isHex = [] := rfl
  have hlast := hasLeadingZero_number (by decide : 1 < 10) (by decide) address.d.toNat
    (rfl : ([] : List Char).takeWhile isHex = [])
  rw [List.append_nil] at hlast
  rw [V4.toList_text, hasLeadingZero_number (by decide) (by decide) _ (hdot _),
    hasLeadingZero_dot, hasLeadingZero_number (by decide) (by decide) _ (hdot _),
    hasLeadingZero_dot, hasLeadingZero_number (by decide) (by decide) _ (hdot _),
    hasLeadingZero_dot, hlast]
  rfl

theorem V6.not_hasLeadingZero_groupedText (address : V6) :
    hasLeadingZero true address.groupedText.toList = false := by
  have hend (groups : List UInt16) :
      hasLeadingZero true (groupsText groups).toList = false := by
    rw [← List.append_nil (groupsText groups).toList, hasLeadingZero_groupsText (Or.inl rfl)]
    rfl
  unfold V6.groupedText
  dsimp only
  split
  · rw [toList_leftOut, hasLeadingZero_groupsText (Or.inr ⟨_, rfl⟩)]
    exact hend _
  · exact hend _

/-- No number in the text of an address has a leading zero. -/
theorem Address.not_hasLeadingZero (address : Address) :
    hasLeadingZero true address.text.toList = false := by
  have hmark (cs : List Char) :
      hasLeadingZero true ("::ffff:".toList ++ cs) = hasLeadingZero true cs := rfl
  cases address with
  | v4 address => exact address.not_hasLeadingZero
  | v6 address =>
    rw [Address.text, V6.text]
    split
    · rw [String.toList_append, hmark]
      exact V4.not_hasLeadingZero _
    · exact address.not_hasLeadingZero_groupedText

theorem isAddressChar_digitChar {d : Nat} (h : d < 16) : isAddressChar d.digitChar = true := by
  have hdigits : ∀ m : Fin 16, isAddressChar m.val.digitChar = true := by decide
  exact hdigits ⟨d, h⟩

theorem isAddressChar_of_mem_toDigits {base : Nat} (hbase : 1 < base) (hlimit : base ≤ 16) {n : Nat}
    {c : Char} (h : c ∈ Nat.toDigits base n) : isAddressChar c = true := by
  obtain ⟨d, hd, rfl⟩ := mem_toDigits hbase h
  exact isAddressChar_digitChar (Nat.lt_of_lt_of_le hd hlimit)

theorem V4.isAddressChar_of_mem_text {address : V4} {c : Char} (h : c ∈ address.text.toList) :
    isAddressChar c = true := by
  have hdot : isAddressChar '.' = true := by decide
  have hoctet (octet : UInt8) (hc : c ∈ Nat.toDigits 10 octet.toNat) : isAddressChar c = true :=
    isAddressChar_of_mem_toDigits (by decide) (by decide) hc
  simp only [V4.toList_text, List.mem_append, List.mem_cons] at h
  rcases h with h | rfl | h | rfl | h | rfl | h
  · exact hoctet _ h
  · exact hdot
  · exact hoctet _ h
  · exact hdot
  · exact hoctet _ h
  · exact hdot
  · exact hoctet _ h

theorem isAddressChar_of_mem_groupsText {groups : List UInt16} {c : Char}
    (h : c ∈ (groupsText groups).toList) : isAddressChar c = true := by
  cases groups with
  | nil => simp [groupsText] at h
  | cons group groups =>
    rw [toList_groupsText, List.mem_append, tailChars, List.mem_flatMap] at h
    rcases h with h | ⟨other, _, h⟩
    · exact isAddressChar_of_mem_toDigits (by decide) (by decide) h
    · rcases List.mem_cons.1 h with rfl | h
      · decide
      · exact isAddressChar_of_mem_toDigits (by decide) (by decide) h

theorem Address.isAddressChar_of_mem_text {address : Address} {c : Char}
    (h : c ∈ address.text.toList) : isAddressChar c = true := by
  have hcolons : ∀ c ∈ "::".toList, isAddressChar c = true := List.all_eq_true.1 (by decide)
  have hmarked : ∀ c ∈ "::ffff:".toList, isAddressChar c = true := List.all_eq_true.1 (by decide)
  cases address with
  | v4 address => exact V4.isAddressChar_of_mem_text h
  | v6 address =>
    simp only [Address.text, V6.text, V6.groupedText] at h
    split at h
    · rcases List.mem_append.1 (String.toList_append ▸ h) with h | h
      · exact hmarked c h
      · exact V4.isAddressChar_of_mem_text h
    · split at h
      · rw [String.toList_append, String.toList_append, List.mem_append, List.mem_append] at h
        rcases h with (h | h) | h
        · exact isAddressChar_of_mem_groupsText h
        · exact hcolons c h
        · exact isAddressChar_of_mem_groupsText h
      · exact isAddressChar_of_mem_groupsText h

/-! ### Canonical addresses -/

@[simp] theorem Address.canonical_mapped (address : V4) :
    (Address.v6 address.mapped).canonical = .v4 address := by
  rw [Address.canonical, V6.mapped?_mapped]

@[simp] theorem Address.canonical_canonical (address : Address) :
    address.canonical.canonical = address.canonical := by
  cases address with
  | v4 address => rfl
  | v6 address =>
    cases hmapped : address.mapped? with
    | none => simp only [Address.canonical, hmapped]
    | some inner => simp only [Address.canonical, hmapped]

/-- Whether a text is the one that a canonical address is written as. -/
def IsCanonicalText (key : String) : Prop := ∃ address : Address, address.canonical.text = key

/-- The address in question is the one that the text denotes. -/
theorem isCanonicalText_iff {key : String} : IsCanonicalText key ↔
    ∃ address, Address.parse? key = some address ∧ address.canonical.text = key := by
  constructor
  · rintro ⟨address, rfl⟩
    exact ⟨address.canonical, address.canonical.parse?_text, by rw [Address.canonical_canonical]⟩
  · rintro ⟨address, _, htext⟩
    exact ⟨address, htext⟩

instance (key : String) : Decidable (IsCanonicalText key) :=
  decidable_of_iff
    ((Address.parse? key).any fun address ↦ decide (address.canonical.text = key)) (by
      rw [isCanonicalText_iff, Option.any_eq_true]
      simp only [decide_eq_true_eq])

/-- Of the texts that denote an address, at most one is that of a canonical address. -/
theorem IsCanonicalText.eq_text {key : String} (h : IsCanonicalText key) {address : Address}
    (hparse : Address.parse? key = some address) : key = address.canonical.text := by
  obtain ⟨found, hfound, htext⟩ := isCanonicalText_iff.1 h
  rw [hparse, Option.some_inj] at hfound
  rw [hfound, htext]

theorem IsCanonicalText.isAddressChar {key : String} (h : IsCanonicalText key) {c : Char}
    (hc : c ∈ key.toList) : Ip.isAddressChar c = true := by
  obtain ⟨address, rfl⟩ := h
  exact Address.isAddressChar_of_mem_text hc

theorem IsCanonicalText.not_hasLeadingZero {key : String} (h : IsCanonicalText key) :
    hasLeadingZero true key.toList = false := by
  obtain ⟨address, rfl⟩ := h
  exact address.canonical.not_hasLeadingZero

/-- The text that shows a mapped address is that of no canonical address. -/
theorem not_isCanonicalText_mapped (address : V4) :
    ¬ IsCanonicalText ("::ffff:" ++ address.text) := by
  have htext : "::ffff:" ++ address.text = (Address.v6 address.mapped).text := by
    rw [Address.text, V6.text, V6.mapped?_mapped]
  rintro ⟨other, hother⟩
  have hsame := congrArg Address.canonical (Address.text_injective (hother.trans htext))
  rw [Address.canonical_canonical, Address.text_injective (hother.trans htext),
    Address.canonical_mapped] at hsame
  cases hsame

example : IsCanonicalText "2001:db8::1" ∧ ¬ IsCanonicalText "2001:DB8::1" ∧
    ¬ IsCanonicalText "2001:db8:0:0::1" ∧ ¬ IsCanonicalText "010.0.0.1" := by decide

end OverlayGateway.Ip
