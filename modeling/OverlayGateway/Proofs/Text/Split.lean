import OverlayGateway.Text.Basic
/-!
The pieces of a text, one by one: none holds a separator, and a text in front of a separator without
one of its own is the first piece. Texts that are joined have the pieces of each of them, and the
pieces are all that joining keeps.
-/

set_option autoImplicit false
set_option relaxedAutoImplicit false

namespace OverlayGateway.Text

variable {isSep : Char → Bool}

theorem piecesWhere_cons_of_sep {c : Char} (h : isSep c = true) (cs : List Char) :
    piecesWhere isSep (c :: cs) = [] :: piecesWhere isSep cs := by
  rw [piecesWhere, if_pos h]

theorem piecesWhere_cons_of_not_sep {c : Char} (h : isSep c = false) {cs piece : List Char}
    {rest : List (List Char)} (hcs : piecesWhere isSep cs = piece :: rest) :
    piecesWhere isSep (c :: cs) = (c :: piece) :: rest := by
  rw [piecesWhere, if_neg (by simp [h]), hcs]

theorem piecesWhere_of_forall {cs : List Char} (h : ∀ c ∈ cs, isSep c = false) :
    piecesWhere isSep cs = [cs] := by
  induction cs with
  | nil => rfl
  | cons c cs ih =>
    rw [List.forall_mem_cons] at h
    exact piecesWhere_cons_of_not_sep h.1 (ih h.2)

/-- Only what is a separator among the characters of a text matters for its pieces. -/
theorem piecesWhere_congr {isSep' : Char → Bool} {cs : List Char}
    (h : ∀ c ∈ cs, isSep c = isSep' c) : piecesWhere isSep cs = piecesWhere isSep' cs := by
  induction cs with
  | nil => rfl
  | cons c cs ih =>
    rw [List.forall_mem_cons] at h
    rw [piecesWhere, piecesWhere, h.1, ih h.2]

/-- A text without separators belongs to the first piece of what follows it. -/
theorem piecesWhere_append_of_forall {front : List Char} (hfront : ∀ c ∈ front, isSep c = false)
    {back piece : List Char} {rest : List (List Char)}
    (hback : piecesWhere isSep back = piece :: rest) :
    piecesWhere isSep (front ++ back) = (front ++ piece) :: rest := by
  induction front with
  | nil => exact hback
  | cons c front ih =>
    rw [List.forall_mem_cons] at hfront
    exact piecesWhere_cons_of_not_sep hfront.1 (ih hfront.2)

/-- A separator ends the pieces in front of it. -/
theorem piecesWhere_append_sep (front : List Char) {sep : Char} (hsep : isSep sep = true)
    (back : List Char) :
    piecesWhere isSep (front ++ sep :: back) = piecesWhere isSep front ++ piecesWhere isSep back := by
  induction front with
  | nil => exact piecesWhere_cons_of_sep hsep back
  | cons c front ih =>
    by_cases hc : isSep c = true
    · rw [List.cons_append, piecesWhere_cons_of_sep hc, piecesWhere_cons_of_sep hc, ih,
        List.cons_append]
    · obtain ⟨piece, rest, hfront⟩ := List.exists_cons_of_ne_nil (piecesWhere_ne_nil isSep front)
      rw [Bool.not_eq_true] at hc
      rw [hfront] at ih
      rw [List.cons_append, piecesWhere_cons_of_not_sep hc ih,
        piecesWhere_cons_of_not_sep hc hfront]
      rfl

/-- What stands in front of the first separator is a piece of its own. -/
theorem piecesWhere_append_cons {front : List Char} (hfront : ∀ c ∈ front, isSep c = false)
    {sep : Char} (hsep : isSep sep = true) (back : List Char) :
    piecesWhere isSep (front ++ sep :: back) = front :: piecesWhere isSep back := by
  rw [piecesWhere_append_sep front hsep, piecesWhere_of_forall hfront, List.singleton_append]

/-- The characters of a piece are those of the text, separators left out. -/
theorem of_mem_piecesWhere {cs piece : List Char} (hpiece : piece ∈ piecesWhere isSep cs)
    {c : Char} (hc : c ∈ piece) : c ∈ cs ∧ isSep c = false := by
  induction cs generalizing piece with
  | nil =>
    rw [piecesWhere, List.mem_singleton] at hpiece
    rw [hpiece] at hc
    cases hc
  | cons first cs ih =>
    by_cases hfirst : isSep first = true
    · rw [piecesWhere_cons_of_sep hfirst, List.mem_cons] at hpiece
      rcases hpiece with rfl | hpiece
      · cases hc
      · exact (ih hpiece hc).imp_left (List.mem_cons_of_mem first)
    · obtain ⟨head, rest, hcs⟩ := List.exists_cons_of_ne_nil (piecesWhere_ne_nil isSep cs)
      rw [Bool.not_eq_true] at hfirst
      rw [piecesWhere_cons_of_not_sep hfirst hcs, List.mem_cons] at hpiece
      rcases hpiece with rfl | hpiece
      · rcases List.mem_cons.1 hc with rfl | hc
        · exact ⟨List.mem_cons_self, hfirst⟩
        · have hhead : head ∈ piecesWhere isSep cs := hcs ▸ List.mem_cons_self
          exact (ih hhead hc).imp_left (List.mem_cons_of_mem first)
      · have hmem : piece ∈ piecesWhere isSep cs := hcs ▸ List.mem_cons_of_mem head hpiece
        exact (ih hmem hc).imp_left (List.mem_cons_of_mem first)

theorem notMem_of_mem_split {sep : Char} {s part : String} (h : part ∈ split sep s) :
    sep ∉ part.toList := by
  intro hsep
  obtain ⟨piece, hpiece, rfl⟩ := List.mem_map.1 h
  rw [String.toList_ofList] at hsep
  have hnot := (of_mem_piecesWhere hpiece hsep).2
  simp at hnot

/-! ### Joining -/

/-- The pieces of joined texts are those of the first, of the second, and so on. -/
theorem pieces_intercalate (sep : Char) {parts : List (List Char)} (h : parts ≠ []) :
    pieces sep ([sep].intercalate parts) = parts.flatMap (pieces sep) := by
  induction parts with
  | nil => exact absurd rfl h
  | cons part parts ih =>
    cases parts with
    | nil => simp
    | cons next parts =>
      have hnext : pieces sep (part ++ sep :: [sep].intercalate (next :: parts)) =
          pieces sep part ++ pieces sep ([sep].intercalate (next :: parts)) :=
        @piecesWhere_append_sep (· == sep) part sep (beq_self_eq_true sep) _
      rw [List.intercalate_cons_cons, List.append_assoc, List.singleton_append, hnext,
        ih (List.cons_ne_nil _ _)]
      rfl

/-- The pieces of a text are joined to the text again. -/
theorem intercalate_pieces (sep : Char) (cs : List Char) :
    [sep].intercalate (pieces sep cs) = cs := by
  induction cs with
  | nil => rfl
  | cons c cs ih =>
    obtain ⟨piece, rest, hcs⟩ := List.exists_cons_of_ne_nil (piecesWhere_ne_nil (· == sep) cs)
    have hpieces : pieces sep cs = piece :: rest := hcs
    rw [hpieces] at ih
    by_cases hc : (c == sep) = true
    · have hcons : pieces sep (c :: cs) = [] :: pieces sep cs :=
        @piecesWhere_cons_of_sep (· == sep) c hc cs
      rw [hcons, hpieces, List.intercalate_cons_cons, ih, ← eq_of_beq hc]
      rfl
    · have hcons : pieces sep (c :: cs) = (c :: piece) :: rest :=
        piecesWhere_cons_of_not_sep (by simpa using hc) hcs
      rw [hcons, ← ih]
      cases rest with
      | nil => simp
      | cons next rest =>
        rw [List.intercalate_cons_cons, List.intercalate_cons_cons]
        rfl

section Joined

variable {text : String} {sep : Char} (htext : text.toList = [sep])
include htext

theorem split_intercalate {parts : List String} (h : parts ≠ []) :
    split sep (text.intercalate parts) = parts.flatMap (split sep) := by
  rw [split, String.toList_intercalate, htext, pieces_intercalate sep (by simpa using h),
    List.flatMap_map, List.map_flatMap]
  rfl

theorem intercalate_split (s : String) : text.intercalate (split sep s) = s := by
  have hlists : (split sep s).map String.toList = pieces sep s.toList := by
    rw [split, List.map_map]
    exact (List.map_congr_left fun _ _ ↦ String.toList_ofList).trans (List.map_id _)
  rw [← String.toList_inj, String.toList_intercalate, htext, hlists, intercalate_pieces]

/-- Texts are joined to the same as others if and only if they have the same pieces. -/
theorem intercalate_eq_iff {first second : List String} (hfirst : first ≠ [])
    (hsecond : second ≠ []) :
    text.intercalate first = text.intercalate second ↔
      first.flatMap (split sep) = second.flatMap (split sep) := by
  rw [← split_intercalate htext hfirst, ← split_intercalate htext hsecond]
  refine ⟨congrArg (split sep), fun h ↦ ?_⟩
  rw [← intercalate_split htext (text.intercalate first), h, intercalate_split htext]

end Joined

/-- A text without the separator is its only piece. -/
theorem split_of_notMem {sep : Char} {s : String} (h : sep ∉ s.toList) : split sep s = [s] := by
  have hpieces : pieces sep s.toList = [s.toList] :=
    piecesWhere_of_forall fun c hc ↦ beq_eq_false_iff_ne.2 fun hsep ↦ h (hsep ▸ hc)
  rw [split, hpieces, List.map_singleton, String.ofList_toList]

/-- Texts without the separator are their own pieces. -/
theorem flatMap_split_of_notMem {sep : Char} {parts : List String}
    (h : ∀ part ∈ parts, sep ∉ part.toList) : parts.flatMap (split sep) = parts := by
  induction parts with
  | nil => rfl
  | cons part parts ih =>
    rw [List.forall_mem_cons] at h
    rw [List.flatMap_cons, split_of_notMem h.1, ih h.2]
    rfl

end OverlayGateway.Text
