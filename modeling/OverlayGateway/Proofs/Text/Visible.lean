import OverlayGateway.Base64
import OverlayGateway.Decimal.Unsigned
import OverlayGateway.Ip.Address
/-!
Visible texts: characters of ASCII from the blank to the tilde. Numerals of every base up to 16 are
visible, and so is whatever visible texts are put together to: the text of an address, digits
between dots and colons, and what base64 is written in, the symbols of its alphabet and the pad. Of
the digits themselves it is known that a number has no leading zero unless it is zero, and that they
are told apart from what follows by where they end.
-/

set_option autoImplicit false
set_option relaxedAutoImplicit false

namespace OverlayGateway

/-! ### Digits -/

theorem takeWhile_digits {α : Type} {isPart : α → Bool} {digits rest : List α}
    (hdigits : ∀ c ∈ digits, isPart c = true) (hrest : rest.takeWhile isPart = []) :
    (digits ++ rest).takeWhile isPart = digits ∧ (digits ++ rest).dropWhile isPart = rest := by
  have hdrop : rest.dropWhile isPart = rest := by
    simpa [hrest] using List.takeWhile_append_dropWhile (p := isPart) (l := rest)
  rw [List.takeWhile_append_of_pos hdigits, List.dropWhile_append_of_pos hdigits, hrest, hdrop,
    List.append_nil]
  exact ⟨rfl, rfl⟩

theorem head?_toDigits {base : Nat} (hbase : 1 < base) (hlimit : base ≤ 16) {n : Nat}
    (hn : 0 < n) : (Nat.toDigits base n).head? ≠ some '0' := by
  induction n using Nat.strongRecOn with
  | _ n ih =>
    rw [Nat.toDigits_eq_if hbase]
    split
    · rename_i hsmall
      have hdigits : ∀ d : Fin 16, 0 < d.val → d.val.digitChar ≠ '0' := by decide
      simpa using hdigits ⟨n, by omega⟩ hn
    · rename_i hlarge
      have hpos : 0 < n / base := Nat.div_pos (by omega) (by omega)
      have hfront := ih (n / base) (Nat.div_lt_self hn hbase) hpos
      cases hdigits : Nat.toDigits base (n / base) with
      | nil => exact absurd hdigits Nat.toDigits_ne_nil
      | cons c cs =>
        rw [hdigits] at hfront
        exact hfront

theorem mem_toDigits {base : Nat} (hbase : 1 < base) {n : Nat} {c : Char}
    (h : c ∈ Nat.toDigits base n) : ∃ d < base, c = d.digitChar := by
  induction n using Nat.strongRecOn with
  | _ n ih =>
    rw [Nat.toDigits_eq_if hbase] at h
    split at h
    · rename_i hsmall
      exact ⟨n, hsmall, List.mem_singleton.1 h⟩
    · rcases List.mem_append.1 h with h | h
      · exact ih (n / base) (Nat.div_lt_self (by omega) hbase) h
      · exact ⟨n % base, Nat.mod_lt n (by omega), List.mem_singleton.1 h⟩

/-! ### Visible texts -/

namespace Text

/-- The characters of ASCII that are no controls. -/
def IsVisible (c : Char) : Prop := 0x20 ≤ c.toNat ∧ c.toNat < 0x7F

instance (c : Char) : Decidable (IsVisible c) := inferInstanceAs (Decidable (_ ∧ _))

/-- Whether all characters of a text are visible. -/
def Visible (s : String) : Prop := ∀ c ∈ s.toList, IsVisible c

theorem visible_iff_all {s : String} :
    (s.toList.all fun c ↦ decide (IsVisible c)) = true ↔ Visible s := by
  simp only [List.all_eq_true, decide_eq_true_eq, Visible]

instance (s : String) : Decidable (Visible s) := decidable_of_iff _ visible_iff_all

theorem Visible.append {s t : String} (hs : Visible s) (ht : Visible t) : Visible (s ++ t) := by
  intro c hc
  rw [String.toList_append, List.mem_append] at hc
  exact hc.elim (hs c) (ht c)

theorem Visible.intercalate {sep : String} (hsep : Visible sep) {parts : List String}
    (hparts : ∀ part ∈ parts, Visible part) : Visible (sep.intercalate parts) := by
  induction parts with
  | nil => exact fun c hc ↦ by simp at hc
  | cons part parts ih =>
    rw [List.forall_mem_cons] at hparts
    by_cases hnil : parts = []
    · rw [hnil, String.intercalate_singleton]
      exact hparts.1
    · rw [String.intercalate_cons_of_ne_nil hnil]
      exact (hparts.1.append hsep).append (ih hparts.2)

theorem isVisible_digitChar {d : Nat} (h : d < 16) : IsVisible d.digitChar := by
  have hdigits : ∀ m : Fin 16, IsVisible m.val.digitChar := by decide
  exact hdigits ⟨d, h⟩

/-- The digits of a number in a base up to 16 are visible. -/
theorem visible_toDigits {base : Nat} (hbase : 1 < base) (hlimit : base ≤ 16) (n : Nat) :
    Visible (String.ofList (Nat.toDigits base n)) := by
  intro c hc
  rw [String.toList_ofList] at hc
  obtain ⟨d, hd, rfl⟩ := mem_toDigits hbase hc
  exact isVisible_digitChar (Nat.lt_of_lt_of_le hd hlimit)

theorem visible_write (n : Nat) : Visible (Decimal.write n) :=
  visible_toDigits (by decide) (by decide) n

end Text

/-! ### Addresses -/

namespace Ip

theorem V4.visible_text (address : V4) : Text.Visible address.text := by
  refine Text.Visible.intercalate (by decide) fun part hpart ↦ ?_
  obtain ⟨octet, _, rfl⟩ := List.mem_map.1 hpart
  exact Text.visible_write octet.toNat

theorem visible_groupsText (groups : List UInt16) : Text.Visible (groupsText groups) := by
  refine Text.Visible.intercalate (by decide) fun part hpart ↦ ?_
  obtain ⟨group, _, rfl⟩ := List.mem_map.1 hpart
  exact Text.visible_toDigits (by decide) (by decide) group.toNat

theorem V6.visible_groupedText (address : V6) : Text.Visible address.groupedText := by
  unfold groupedText
  dsimp only
  split
  · exact ((visible_groupsText _).append (by decide)).append (visible_groupsText _)
  · exact visible_groupsText _

theorem V6.visible_text (address : V6) : Text.Visible address.text := by
  unfold V6.text
  split
  · exact Text.Visible.append (by decide) (V4.visible_text _)
  · exact address.visible_groupedText

theorem Address.visible_text (address : Address) : Text.Visible address.text := by
  cases address with
  | v4 address => exact address.visible_text
  | v6 address => exact address.visible_text

end Ip

/-! ### Base64 -/

namespace Base64

/-- The symbols that encoded bytes consist of. -/
def IsSymbol (b : UInt8) : Prop := b = pad ∨ ∃ n < 64, b = symbol n

theorem isSymbol_symbol {n : Nat} (h : n < 64) : IsSymbol (symbol n) := Or.inr ⟨n, h, rfl⟩

theorem isSymbol_of_mem_encode {bytes : List UInt8} {b : UInt8} (h : b ∈ encode bytes) :
    IsSymbol b := by
  induction bytes using encode.induct with
  | case1 x y z rest ih =>
    have hx := x.toNat_lt
    have hy := y.toNat_lt
    have hz := z.toNat_lt
    simp only [encode, List.mem_cons] at h
    rcases h with rfl | rfl | rfl | rfl | h
    · exact isSymbol_symbol (by omega)
    · exact isSymbol_symbol (by omega)
    · exact isSymbol_symbol (by omega)
    · exact isSymbol_symbol (by omega)
    · exact ih h
  | case2 x y =>
    have hx := x.toNat_lt
    have hy := y.toNat_lt
    simp only [encode, List.mem_cons, List.not_mem_nil, or_false] at h
    rcases h with rfl | rfl | rfl | rfl
    · exact isSymbol_symbol (by omega)
    · exact isSymbol_symbol (by omega)
    · exact isSymbol_symbol (by omega)
    · exact Or.inl rfl
  | case3 x =>
    have hx := x.toNat_lt
    simp only [encode, List.mem_cons, List.not_mem_nil, or_false] at h
    rcases h with rfl | rfl | rfl | rfl
    · exact isSymbol_symbol (by omega)
    · exact isSymbol_symbol (by omega)
    · exact Or.inl rfl
    · exact Or.inl rfl
  | case4 => simp [encode] at h

theorem IsSymbol.isVisible {b : UInt8} (h : IsSymbol b) : Text.IsVisible (Char.ofNat b.toNat) := by
  have hsymbols : ∀ n : Fin 64, Text.IsVisible (Char.ofNat (symbol n.val).toNat) := by decide
  rcases h with rfl | ⟨n, hn, rfl⟩
  · decide
  · exact hsymbols ⟨n, hn⟩

theorem visible_encode (bytes : List UInt8) :
    Text.Visible (String.ofList ((encode bytes).map fun b ↦ Char.ofNat b.toNat)) := by
  intro c hc
  rw [String.toList_ofList] at hc
  obtain ⟨b, hb, rfl⟩ := List.mem_map.1 hc
  exact (isSymbol_of_mem_encode hb).isVisible

end Base64

end OverlayGateway
