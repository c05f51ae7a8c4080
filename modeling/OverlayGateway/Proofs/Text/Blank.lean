import Mathlib.Data.List.TakeWhile
import OverlayGateway.Text.Basic
/-!
What trimming leaves, as `trim_eq_iff` says it: the one text without a blank at either end that the
given text is, but for blanks around it.
-/

set_option autoImplicit false
set_option relaxedAutoImplicit false

namespace OverlayGateway.Text

/-- No blank stands at either end. -/
structure Unpadded (cs : List Char) : Prop where
  start : ∀ c ∈ cs.head?, isBlank c = false
  finish : ∀ c ∈ cs.getLast?, isBlank c = false

/-- A text is another one between blanks. -/
def Surrounds (outer inner : List Char) : Prop :=
  ∃ before after, outer = before ++ (inner ++ after) ∧
    (∀ c ∈ before, isBlank c = true) ∧ ∀ c ∈ after, isBlank c = true

theorem trimEnd_eq_reverse (cs : List Char) : trimEnd cs = (trimStart cs.reverse).reverse := rfl

theorem trimStart_of_head? {cs : List Char} (h : ∀ c ∈ cs.head?, isBlank c = false) :
    trimStart cs = cs := by
  cases cs with
  | nil => rfl
  | cons c cs => exact List.dropWhile_cons_of_neg (by simp [h c rfl])

theorem trimEnd_of_getLast? {cs : List Char} (h : ∀ c ∈ cs.getLast?, isBlank c = false) :
    trimEnd cs = cs := by
  have hreversed : trimStart cs.reverse = cs.reverse :=
    trimStart_of_head? fun c hc ↦ h c (List.head?_reverse ▸ hc)
  rw [trimEnd_eq_reverse, hreversed, List.reverse_reverse]

theorem isBlank_head?_trimStart {cs : List Char} {c : Char} (h : c ∈ (trimStart cs).head?) :
    isBlank c = false := by
  induction cs with
  | nil => cases h
  | cons first cs ih =>
    rw [trimStart_cons] at h
    by_cases hfirst : isBlank first = true
    · rw [if_pos hfirst] at h
      exact ih h
    · rw [if_neg hfirst, List.head?_cons, Option.mem_some_iff] at h
      exact h ▸ Bool.eq_false_iff.2 hfirst

theorem trimStart_append_of_forall {before : List Char} (h : ∀ c ∈ before, isBlank c = true)
    (cs : List Char) : trimStart (before ++ cs) = trimStart cs :=
  List.dropWhile_append_of_pos h

theorem trimEnd_append_of_forall {after : List Char} (h : ∀ c ∈ after, isBlank c = true)
    (cs : List Char) : trimEnd (cs ++ after) = trimEnd cs := by
  rw [trimEnd_eq_reverse, List.reverse_append,
    trimStart_append_of_forall fun c hc ↦ h c (List.mem_reverse.1 hc), ← trimEnd_eq_reverse]

theorem exists_trimStart (cs : List Char) :
    ∃ before, cs = before ++ trimStart cs ∧ ∀ c ∈ before, isBlank c = true :=
  ⟨cs.takeWhile isBlank, List.takeWhile_append_dropWhile.symm, fun _ ↦ List.mem_takeWhile_imp⟩

theorem exists_trimEnd (cs : List Char) :
    ∃ after, cs = trimEnd cs ++ after ∧ ∀ c ∈ after, isBlank c = true := by
  obtain ⟨after, hcs, hafter⟩ := exists_trimStart cs.reverse
  refine ⟨after.reverse, ?_, fun c hc ↦ hafter c (List.mem_reverse.1 hc)⟩
  rw [trimEnd_eq_reverse, ← List.reverse_append, ← hcs, List.reverse_reverse]

theorem surrounds_trimChars (cs : List Char) : Surrounds cs (trimChars cs) := by
  obtain ⟨before, hstart, hbefore⟩ := exists_trimStart cs
  obtain ⟨after, hend, hafter⟩ := exists_trimEnd (trimStart cs)
  exact ⟨before, after, hstart.trans (congrArg (before ++ ·) hend), hbefore, hafter⟩

theorem unpadded_trimChars (cs : List Char) : Unpadded (trimChars cs) where
  start := by
    intro c hc
    -- what is dropped at the end leaves the first character that is kept
    obtain ⟨after, hend, -⟩ := exists_trimEnd (trimStart cs)
    have hhead : c ∈ (trimStart cs).head? := by
      rw [hend, List.head?_append, show (trimEnd (trimStart cs)).head? = some c from hc]
      rfl
    exact isBlank_head?_trimStart hhead
  finish := by
    intro c hc
    rw [trimChars, trimEnd_eq_reverse, List.getLast?_reverse] at hc
    exact isBlank_head?_trimStart hc

theorem trimChars_eq_of_surrounds {outer inner : List Char} (h : Surrounds outer inner)
    (hinner : Unpadded inner) : trimChars outer = inner := by
  obtain ⟨before, after, rfl, hbefore, hafter⟩ := h
  rw [trimChars, trimStart_append_of_forall hbefore]
  cases inner with
  | nil =>
    have hnone : trimStart after = [] := by simpa using trimStart_append_of_forall hafter []
    rw [List.nil_append, hnone]
    rfl
  | cons c cs =>
    have hstart : trimStart (c :: cs ++ after) = c :: cs ++ after := trimStart_of_head? hinner.start
    rw [hstart, trimEnd_append_of_forall hafter, trimEnd_of_getLast? hinner.finish]

theorem trimChars_eq_iff {outer inner : List Char} :
    trimChars outer = inner ↔ Surrounds outer inner ∧ Unpadded inner := by
  constructor
  · rintro rfl
    exact ⟨surrounds_trimChars outer, unpadded_trimChars outer⟩
  · rintro ⟨hsurrounds, hunpadded⟩
    exact trimChars_eq_of_surrounds hsurrounds hunpadded

theorem trim_eq_iff {s inner : String} :
    trim s = inner ↔ Surrounds s.toList inner.toList ∧ Unpadded inner.toList := by
  rw [← String.toList_inj, toList_trim, trimChars_eq_iff]

theorem trim_eq_self_iff {s : String} : trim s = s ↔ Unpadded s.toList :=
  ⟨fun h ↦ (trim_eq_iff.1 h).2, fun h ↦ trim_eq_iff.2 ⟨⟨[], [], by simp, by simp, by simp⟩, h⟩⟩

end OverlayGateway.Text
