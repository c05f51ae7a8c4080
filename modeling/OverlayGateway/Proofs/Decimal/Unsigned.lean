import Mathlib.Data.Nat.Digits.Defs
import Mathlib.Tactic.Ring
import OverlayGateway.Decimal.Unsigned
import OverlayGateway.Proofs.Result
import OverlayGateway.Text.Basic
/-!
What unsigned decimals are, apart from how they are read. The digits count by their places, so zeros
in front count for nothing, and a plus sign may stand before them. Reading below a limit succeeds
for these texts and no others, if the number is below the limit (`readChars_eq_ok_iff`); the value
read so far never shrinks (`le_ofDigitChars`), so giving up at the first one that reaches the limit
loses no number. A text that is not read has one of four flaws (`flawed_iff`).
-/

set_option autoImplicit false
set_option relaxedAutoImplicit false

namespace OverlayGateway.Decimal

/-! ### Numerals -/

/-- The number that digits stand for by their places, the last one being that of the units. -/
def valueOf (digits : List Char) : Nat :=
  Nat.ofDigits 10 (digits.reverse.map fun c ↦ c.toNat - '0'.toNat)

/-- A plus sign, or nothing. -/
inductive SpellsPlus : List Char → Prop
  | none : SpellsPlus []
  | plus : SpellsPlus ['+']

/-- A number in ASCII digits, at least one. -/
inductive Spells : List Char → Nat → Prop
  | parts {sign digits : List Char} (hsign : SpellsPlus sign) (hne : digits ≠ [])
      (hdigits : ∀ c ∈ digits, c.isDigit = true) : Spells (sign ++ digits) (valueOf digits)

/-- What keeps a text from spelling a number below a limit. -/
inductive Flawed (limit : Nat) : List Char → Prop
  | empty : Flawed limit []
  | sign : Flawed limit ['+']
  /-- Some character is no digit, nor a plus sign in front. -/
  | foreign {before after : List Char} {c : Char} (hdigit : c.isDigit = false)
      (hsign : before = [] → c ≠ '+') : Flawed limit (before ++ c :: after)
  | tooLarge {cs : List Char} {n : Nat} (h : Spells cs n) (hlimit : limit ≤ n) : Flawed limit cs

section Digits

variable {limit value n : Nat} {c : Char} {cs : List Char}

@[simp] theorem valueOf_nil : valueOf [] = 0 := rfl

theorem valueOf_cons (c : Char) (cs : List Char) :
    valueOf (c :: cs) = (c.toNat - '0'.toNat) * 10 ^ cs.length + valueOf cs := by
  rw [valueOf, List.reverse_cons, List.map_append, Nat.ofDigits_append, List.map_singleton,
    Nat.ofDigits_singleton, List.length_map, List.length_reverse, Nat.add_comm, Nat.mul_comm]
  rfl

theorem ofDigitChars_eq (cs : List Char) (value : Nat) :
    Nat.ofDigitChars 10 cs value = value * 10 ^ cs.length + valueOf cs := by
  induction cs generalizing value with
  | nil => simp
  | cons c cs ih =>
    rw [Nat.ofDigitChars_cons, ih, valueOf_cons, List.length_cons]
    ring

/-- With every digit that is read the value grows, or stays what it is. -/
theorem le_ofDigitChars (cs : List Char) (value : Nat) :
    value ≤ Nat.ofDigitChars 10 cs value := by
  rw [ofDigitChars_eq]
  exact Nat.le_add_right_of_le (Nat.le_mul_of_pos_right value (Nat.pow_pos (by decide)))

theorem spells_write (n : Nat) : Spells (write n).toList n := by
  have hvalue : valueOf (Nat.toDigits 10 n) = n := by
    have h := Nat.ofDigitChars_toDigits (b := 10) (n := n) (by decide) (by decide)
    rwa [ofDigitChars_eq, Nat.zero_mul, Nat.zero_add] at h
  have h : Spells ([] ++ Nat.toDigits 10 n) (valueOf (Nat.toDigits 10 n)) :=
    .parts .none Nat.toDigits_ne_nil fun _ ↦ Nat.isDigit_of_mem_toDigits (by decide) (by decide)
  rw [hvalue, List.nil_append] at h
  rwa [write, String.toList_ofList]

/-! ### Reading -/

theorem isDigit_iff : c.isDigit = true ↔ '0' ≤ c ∧ c ≤ '9' := by
  rw [Char.isDigit, Bool.and_eq_true, decide_eq_true_eq, decide_eq_true_eq]
  rfl

theorem digit?_of_isDigit (h : c.isDigit = true) : digit? c = some (c.toNat - '0'.toNat) :=
  if_pos (isDigit_iff.1 h)

theorem digit?_of_not_isDigit (h : ¬ c.isDigit = true) : digit? c = none :=
  if_neg (mt isDigit_iff.2 h)

/-- Digits are read behind the value so far. -/
theorem readDigits_eq_ok_iff :
    readDigits limit value cs = .ok n ↔
      (∀ c ∈ cs, c.isDigit = true) ∧ Nat.ofDigitChars 10 cs value = n ∧ (cs = [] ∨ n < limit) := by
  induction cs generalizing value with
  | nil => simp [readDigits]
  | cons c cs ih =>
    rw [readDigits, List.forall_mem_cons, Nat.ofDigitChars_cons, Nat.mul_comm 10 value]
    by_cases hc : c.isDigit = true
    · simp only [digit?_of_isDigit hc, hc, true_and, reduceCtorEq, false_or]
      generalize value * 10 + (c.toNat - '0'.toNat) = next
      by_cases hnext : next < limit
      · rw [if_pos hnext, ih]
        refine and_congr_right fun _ ↦ and_congr_right fun hn ↦ ?_
        refine or_iff_right_of_imp fun hnil ↦ ?_
        rw [hnil, Nat.ofDigitChars_nil] at hn
        exact hn ▸ hnext
      · -- a value that reaches the limit does not come below it again
        rw [if_neg hnext]
        refine iff_of_false (by simp) ?_
        rintro ⟨-, rfl, hn⟩
        exact hnext (Nat.lt_of_le_of_lt (le_ofDigitChars cs next) hn)
    · simp [digit?_of_not_isDigit hc, hc]

theorem readChars_plus (hne : cs ≠ []) :
    readChars limit ('+' :: cs) = readDigits limit 0 cs := by
  cases cs with
  | nil => exact absurd rfl hne
  | cons c cs => rfl

theorem readChars_of_head? (hne : cs ≠ []) (hsign : cs.head? ≠ some '+') :
    readChars limit cs = readDigits limit 0 cs := by
  unfold readChars
  split
  · exact absurd rfl hne
  · exact absurd rfl hsign
  · exact absurd rfl hsign
  · rfl

/-- Reading succeeds for the numerals below the limit, and gives the number that is spelled. -/
theorem readChars_eq_ok_iff : readChars limit cs = .ok n ↔ Spells cs n ∧ n < limit := by
  have hdigits {digits : List Char} (hne : digits ≠ []) :
      readDigits limit 0 digits = .ok n ↔
        ((∀ c ∈ digits, c.isDigit = true) ∧ valueOf digits = n) ∧ n < limit := by
    rw [readDigits_eq_ok_iff, ofDigitChars_eq, Nat.zero_mul, Nat.zero_add, or_iff_right hne,
      and_assoc]
  constructor
  · intro h
    unfold readChars at h
    split at h
    next => cases h
    next => cases h
    next digits hne =>
      obtain ⟨⟨hall, rfl⟩, hlimit⟩ := (hdigits hne).1 h
      exact ⟨.parts .plus hne hall, hlimit⟩
    next hne _ _ =>
      obtain ⟨⟨hall, rfl⟩, hlimit⟩ := (hdigits hne).1 h
      exact ⟨.parts .none hne hall, hlimit⟩
  · rintro ⟨⟨hsign, hne, hall⟩, hlimit⟩
    have h := (hdigits hne).2 ⟨⟨hall, rfl⟩, hlimit⟩
    cases hsign with
    | none =>
      rw [List.nil_append, readChars_of_head? hne, h]
      exact fun hhead ↦ absurd (hall '+' (List.mem_of_head? hhead)) (by decide)
    | plus => exact (readChars_plus hne).trans h

theorem read?_eq_some_iff {s : String} : read? limit s = some n ↔ Spells s.toList n ∧ n < limit := by
  rw [read?, toOption_eq_some_iff, read, readChars_eq_ok_iff]

/-- A text spells one number at most. -/
theorem Spells.unique {m : Nat} (hn : Spells cs n) (hm : Spells cs m) : n = m := by
  have hleft := readChars_eq_ok_iff.2 ⟨hn, Nat.lt_succ_of_le (Nat.le_max_left n m)⟩
  have hright := readChars_eq_ok_iff.2 ⟨hm, Nat.lt_succ_of_le (Nat.le_max_right n m)⟩
  exact Except.ok.inj (hleft.symm.trans hright)

/-! ### Flaws -/

/-- All that is spelled with is digits, but for a plus sign in front. -/
theorem Spells.isDigit {before after : List Char} (h : Spells (before ++ c :: after) n)
    (hsign : before = [] → c ≠ '+') : c.isDigit = true := by
  generalize hcs : before ++ c :: after = cs at h
  obtain ⟨hplus, _, hall⟩ := h
  cases hplus with
  | none =>
    rw [List.nil_append] at hcs
    exact hall c (hcs ▸ List.mem_append_right before List.mem_cons_self)
  | plus =>
    rw [List.singleton_append] at hcs
    cases before with
    | nil => exact absurd (List.head_eq_of_cons_eq hcs) (hsign rfl)
    | cons first before =>
      rw [List.cons_append, List.cons.injEq] at hcs
      exact hall c (hcs.2 ▸ List.mem_append_right before List.mem_cons_self)

theorem not_isBlank_of_isDigit (h : c.isDigit = true) : Text.isBlank c = false := by
  have hrange : 48 ≤ c.toNat ∧ c.toNat ≤ 57 := isDigit_iff.1 h
  rw [← Bool.not_eq_true]
  simp only [Text.isBlank, Bool.or_eq_true, Bool.and_eq_true, decide_eq_true_eq, beq_iff_eq]
  omega

theorem Spells.not_isBlank (h : Spells cs n) (hc : c ∈ cs) : Text.isBlank c = false := by
  obtain ⟨before, after, rfl⟩ := List.append_of_mem hc
  by_cases hplus : c = '+'
  · rw [hplus]
    decide
  · exact not_isBlank_of_isDigit (h.isDigit fun _ ↦ hplus)

theorem exists_foreign (h : ¬ ∀ c ∈ cs, c.isDigit = true) :
    ∃ before c after, cs = before ++ c :: after ∧ c.isDigit = false := by
  simp only [not_forall, Bool.not_eq_true, exists_prop] at h
  obtain ⟨c, hc, hforeign⟩ := h
  obtain ⟨before, after, hcs⟩ := List.append_of_mem hc
  exact ⟨before, c, after, hcs, hforeign⟩

theorem flawed_or_spells (limit : Nat) (cs : List Char) :
    Flawed limit cs ∨ ∃ n < limit, Spells cs n := by
  have hspelt {cs : List Char} {n : Nat} (h : Spells cs n) :
      Flawed limit cs ∨ ∃ n < limit, Spells cs n := by
    rcases Nat.lt_or_ge n limit with hn | hn
    · exact Or.inr ⟨n, hn, h⟩
    · exact Or.inl (.tooLarge h hn)
  cases cs with
  | nil => exact Or.inl .empty
  | cons first cs =>
    by_cases hfirst : first = '+'
    · rw [hfirst]
      by_cases hnil : cs = []
      · exact Or.inl (hnil ▸ .sign)
      by_cases hall : ∀ c ∈ cs, c.isDigit = true
      · exact hspelt (.parts .plus hnil hall)
      · obtain ⟨before, c, after, rfl, hc⟩ := exists_foreign hall
        have hflawed : Flawed limit ('+' :: before ++ c :: after) := .foreign hc (by simp)
        exact Or.inl hflawed
    · by_cases hall : ∀ c ∈ first :: cs, c.isDigit = true
      · exact hspelt (.parts .none (List.cons_ne_nil first cs) hall)
      · obtain ⟨before, c, after, hcs, hc⟩ := exists_foreign hall
        refine Or.inl (hcs ▸ .foreign hc fun hnil ↦ ?_)
        rw [hnil] at hcs
        exact List.head_eq_of_cons_eq hcs ▸ hfirst

/-- A flawed text is one that spells no number below the limit. -/
theorem flawed_iff : Flawed limit cs ↔ ∀ n < limit, ¬ Spells cs n := by
  constructor
  · intro hflawed n hn hspells
    have hread := readChars_eq_ok_iff.2 ⟨hspells, hn⟩
    cases hflawed with
    | empty => cases hread
    | sign => cases hread
    | foreign hdigit hsign => exact absurd (hspells.isDigit hsign) (by simp [hdigit])
    | tooLarge h hlimit => exact absurd hn (Nat.not_lt.2 (hspells.unique h ▸ hlimit))
  · intro hnone
    refine (flawed_or_spells limit cs).resolve_right ?_
    rintro ⟨n, hn, hspells⟩
    exact hnone n hn hspells

end Digits

end OverlayGateway.Decimal
