/-!
Results that may be missing. Of two computations that can fail, one behind the other, both have to
succeed for a result, and it is the first failure that stays. A key is found in a list of entries if
and only if some entry has it, and with distinct keys it is that entry which is found.
-/

set_option autoImplicit false
set_option relaxedAutoImplicit false

namespace OverlayGateway

/-! ### Computations that can fail -/

section Computations

variable {ε α β : Type} {result : Except ε α} {next : α → Except ε β}

theorem toOption_eq_some_iff {value : α} :
    result.toOption = some value ↔ result = .ok value := by
  cases result <;> simp [Except.toOption]

theorem map_eq_ok_iff {f : α → β} {found : β} :
    result.map f = .ok found ↔ ∃ value, result = .ok value ∧ f value = found := by
  cases result <;> simp [Except.map]

theorem bind_eq_ok_iff {found : β} :
    (result >>= next) = .ok found ↔ ∃ value, result = .ok value ∧ next value = .ok found := by
  cases result with
  | error error => exact ⟨fun h ↦ (by cases h), fun ⟨_, h, _⟩ ↦ (by cases h)⟩
  | ok value => exact ⟨fun h ↦ ⟨value, rfl, h⟩, fun ⟨_, h, hnext⟩ ↦ (by cases h; exact hnext)⟩

theorem bind_eq_error_iff {error : ε} :
    (result >>= next) = .error error ↔
      result = .error error ∨ ∃ value, result = .ok value ∧ next value = .error error := by
  cases result with
  | error first =>
    refine ⟨fun h ↦ ?_, fun h ↦ ?_⟩
    · cases h
      exact Or.inl rfl
    · rcases h with h | ⟨_, h, _⟩
      · cases h
        rfl
      · cases h
  | ok value =>
    refine ⟨fun h ↦ Or.inr ⟨value, rfl, h⟩, fun h ↦ ?_⟩
    rcases h with h | ⟨_, h, hnext⟩
    · cases h
    · cases h
      exact hnext

end Computations

/-! ### Look-ups -/

theorem lookup_eq_none_iff {α : Type} {entries : List (String × α)} {key : String} :
    entries.lookup key = none ↔ key ∉ entries.map Prod.fst := by
  rw [List.lookup_eq_none_iff]
  simp only [List.mem_map, not_exists, not_and, bne_iff_ne, ne_eq]
  exact forall₂_congr fun entry _ ↦ not_congr eq_comm

theorem lookup_eq_some_iff {α : Type} {entries : List (String × α)}
    (hnodup : (entries.map Prod.fst).Nodup) {key : String} {value : α} :
    entries.lookup key = some value ↔ (key, value) ∈ entries := by
  induction entries with
  | nil => simp
  | cons entry entries ih =>
    obtain ⟨name, first⟩ := entry
    rw [List.map_cons, List.nodup_cons] at hnodup
    by_cases h : key = name
    · subst h
      have hother : (key, value) ∉ entries := fun hmem ↦ hnodup.1 (List.mem_map.2 ⟨_, hmem, rfl⟩)
      simp [hother, eq_comm]
    · simp [List.lookup_cons, beq_eq_false_iff_ne.2 h, ih hnodup.2, h]

end OverlayGateway
