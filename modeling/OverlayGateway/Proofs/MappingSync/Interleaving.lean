import OverlayGateway.MappingSync
import OverlayGateway.Proofs.MappingTable.Merge
/-!
Two merges at the same time. A merge writes one entry after the other, in no particular order, and
another merge may write in between. Each address ends up with the identity that was written to it
last, which one of the two sources sent; but the two may win at different addresses, so the table
need not be one that the merges leave one after the other.
-/

set_option autoImplicit false
set_option relaxedAutoImplicit false

namespace OverlayGateway.MappingSync

open MappingTable

/-- The ways in which two series of steps come to pass side by side. -/
inductive Interleaving {α : Type} : List α → List α → List α → Prop
  | nil : Interleaving [] [] []
  | left {step : α} {first second both : List α} (rest : Interleaving first second both) :
      Interleaving (step :: first) second (step :: both)
  | right {step : α} {first second both : List α} (rest : Interleaving first second both) :
      Interleaving first (step :: second) (step :: both)

theorem interleaving_nil {α : Type} (first : List α) : Interleaving first [] first := by
  induction first with
  | nil => exact .nil
  | cons step first ih => exact .left ih

theorem Interleaving.symm {α : Type} {first second both : List α}
    (h : Interleaving first second both) : Interleaving second first both := by
  induction h with
  | nil => exact .nil
  | left rest ih => exact .right ih
  | right rest ih => exact .left ih

/-- The second series may come to pass before the first one. -/
theorem interleaving_append {α : Type} (first second : List α) :
    Interleaving first second (second ++ first) := by
  induction second with
  | nil => exact interleaving_nil first
  | cons step second ih => exact .right ih

/-- An identity that one of two sources has, and none only if neither has one. -/
def OneOf (found first second : Option Identity) : Prop :=
  (found = first ∨ found = second) ∧ (found = none ↔ first = none ∧ second = none)

theorem OneOf.symm {found first second : Option Identity} (h : OneOf found first second) :
    OneOf found second first :=
  ⟨h.1.symm, h.2.trans and_comm⟩

/-- An entry in front counts where no later one does. -/
theorem OneOf.or_left {found first second : Option Identity} (h : OneOf found first second)
    (earlier : Option Identity) : OneOf (found.or earlier) (first.or earlier) second := by
  obtain ⟨hfound, hnone⟩ := h
  cases found with
  | none =>
    obtain ⟨rfl, rfl⟩ := hnone.1 rfl
    exact ⟨Or.inl rfl, by simp⟩
  | some identity =>
    rcases hfound with rfl | rfl
    · exact ⟨Or.inl rfl, by simp⟩
    · exact ⟨Or.inr rfl, by simp⟩

/-- Where two sources agree, it does not matter which one was asked. -/
theorem OneOf.eq_or {found first second : Option Identity} (h : OneOf found first second)
    (hagree : ∀ one other, first = some one → second = some other → one = other) :
    found = second.or first := by
  obtain ⟨hfound, hnone⟩ := h
  cases first with
  | none =>
    cases second with
    | none => exact hnone.2 ⟨rfl, rfl⟩
    | some other =>
      rcases hfound with rfl | rfl
      · cases (hnone.1 rfl).2
      · rfl
  | some one =>
    cases second with
    | none =>
      rcases hfound with rfl | rfl
      · rfl
      · cases (hnone.1 rfl).1
    | some other =>
      rw [hagree one other rfl rfl] at hfound
      exact hfound.elim id id

/-- The last entry with a key is the last one of either series. -/
theorem last?_interleaving {first second both : List (String × Identity)}
    (h : Interleaving first second both) (key : String) :
    OneOf (last? both key) (last? first key) (last? second key) := by
  induction h with
  | nil => exact ⟨Or.inl rfl, by simp [last?]⟩
  | left rest ih =>
    rw [last?_cons, last?_cons]
    exact ih.or_left _
  | right rest ih =>
    rw [last?_cons, last?_cons]
    exact (ih.symm.or_left _).symm

/-- Entries in the order in which two merges write them. -/
def Mixed (first second : MappingTable) (entries : List (String × Identity)) : Prop :=
  ∃ left right, left.Perm first.entries ∧ right.Perm second.entries ∧
    Interleaving left right entries

/-- Two tables with the same entries. -/
def Same (first second : MappingTable) : Prop := ∀ key, first.get? key = second.get? key

/-- The table after two merges, one after the other. -/
def serial (table first second : MappingTable) : MappingTable :=
  (merge (merge table (.ok first)).table (.ok second)).table

/-- Whether two tables have different identities for an address. -/
def Conflict (first second : MappingTable) (key : String) : Prop :=
  ∃ one other, first.get? key = some one ∧ second.get? key = some other ∧ one ≠ other

theorem get?_serial (table first second : MappingTable) (key : String) :
    (serial table first second).get? key =
      (second.get? key).or ((first.get? key).or (table.get? key)) := by
  rw [serial, merge, merge, get?_merge_entries, get?_merge_entries]

theorem Mixed.oneOf {first second : MappingTable} {entries : List (String × Identity)}
    (h : Mixed first second entries) (key : String) :
    OneOf (last? entries key) (first.get? key) (second.get? key) := by
  obtain ⟨left, right, hleft, hright, hboth⟩ := h
  rw [← last?_of_perm hleft, ← last?_of_perm hright]
  exact last?_interleaving hboth key

/-- Where two merges agree on an address, it does not matter which one writes last. -/
theorem Mixed.get?_merge_of_not_conflict {first second : MappingTable}
    {entries : List (String × Identity)} (h : Mixed first second entries) (table : MappingTable)
    {key : String} (hconflict : ¬ Conflict first second key) :
    (table.merge entries).get? key = (serial table first second).get? key := by
  rw [get?_merge, get?_serial, ← Option.or_assoc]
  congr 1
  refine (h.oneOf key).eq_or fun one other hone hother ↦ ?_
  exact Classical.byContradiction fun hne ↦ hconflict ⟨one, other, hone, hother, hne⟩

theorem Conflict.symm {first second : MappingTable} {key : String}
    (h : Conflict first second key) : Conflict second first key := by
  obtain ⟨one, other, hone, hother, hne⟩ := h
  exact ⟨other, one, hother, hone, hne.symm⟩

theorem Mixed.symm {first second : MappingTable} {entries : List (String × Identity)}
    (h : Mixed first second entries) : Mixed second first entries := by
  obtain ⟨left, right, hleft, hright, hboth⟩ := h
  exact ⟨right, left, hright, hleft, hboth.symm⟩

/-- If two merges differ in one place at most, the one that writes last there might as well come
second. -/
theorem Mixed.same_serial {table first second : MappingTable}
    {entries : List (String × Identity)} (h : Mixed first second entries) {key : String}
    (honly : ∀ other, Conflict first second other → other = key)
    (hlast : last? entries key = second.get? key) :
    Same (table.merge entries) (serial table first second) := by
  intro other
  by_cases hconflict : Conflict first second other
  · have hkey : other = key := honly other hconflict
    obtain ⟨_, identity, _, hidentity, _⟩ := hconflict
    rw [hkey] at hidentity ⊢
    rw [get?_merge, get?_serial, hlast, hidentity]
    rfl
  · exact h.get?_merge_of_not_conflict table hconflict

/-- With one place in dispute at most, the two merges might as well come one after the other. -/
theorem Mixed.same_serial_of_conflicts {table first second : MappingTable}
    {entries : List (String × Identity)} (h : Mixed first second entries)
    (hconflicts : ∀ key other, Conflict first second key → Conflict first second other →
      key = other) :
    Same (table.merge entries) (serial table first second) ∨
      Same (table.merge entries) (serial table second first) := by
  by_cases hsome : ∃ key, Conflict first second key
  · obtain ⟨key, hkey⟩ := hsome
    have honly (other : String) (hother : Conflict first second other) : other = key :=
      hconflicts other key hother hkey
    rcases (h.oneOf key).1 with hlast | hlast
    · exact Or.inr (h.symm.same_serial (fun other hother ↦ honly other hother.symm) hlast)
    · exact Or.inl (h.same_serial honly hlast)
  · exact Or.inl fun key ↦ h.get?_merge_of_not_conflict table fun hkey ↦ hsome ⟨key, hkey⟩

/-- The order in which the second merge runs within the first one, behind one of its entries. -/
theorem mixed_within {first second : MappingTable} {entry : String × Identity}
    (h : entry ∈ first.entries) :
    Mixed first second (entry :: (second.entries ++ first.entries.erase entry)) :=
  ⟨entry :: first.entries.erase entry, second.entries, (List.perm_cons_erase h).symm,
    List.Perm.refl _, .left (interleaving_append _ _)⟩

/-- In that order the second merge wins at the entry, and the first one everywhere else. -/
theorem last?_within {first second : MappingTable} {entry : String × Identity}
    (h : entry ∈ first.entries) (key : String) :
    last? (entry :: (second.entries ++ first.entries.erase entry)) key =
      if key = entry.1 then (second.get? key).or (first.get? key)
      else (first.get? key).or (second.get? key) := by
  have hperm : (entry :: first.entries.erase entry).Perm first.entries :=
    (List.perm_cons_erase h).symm
  have hfirst : last? (entry :: first.entries.erase entry) key = first.get? key :=
    last?_of_perm hperm key
  have hsecond : last? second.entries key = second.get? key :=
    last?_of_perm (List.Perm.refl _) key
  rw [last?_cons] at hfirst
  rw [last?_cons, last?_append, hsecond]
  by_cases hkey : key = entry.1
  · -- no other entry of the first table has this key
    have hnone : last? (first.entries.erase entry) key = none := by
      have hnodup := (hperm.map Prod.fst).nodup_iff.2 first.nodup
      rw [List.map_cons, List.nodup_cons] at hnodup
      refine lookup_eq_none_of_forall_ne fun other hother hsame ↦ hnodup.1 ?_
      exact List.mem_map.2 ⟨other, List.mem_reverse.1 hother, hsame.trans hkey⟩
    rw [hnone, Option.none_or] at hfirst
    rw [hnone, Option.none_or, if_pos hkey, hfirst]
  · have hother : (if entry.1 = key then some entry.2 else none) = none := if_neg (Ne.symm hkey)
    rw [hother, Option.or_none] at hfirst
    rw [hother, Option.or_none, if_neg hkey, hfirst]

/-- With two places in dispute, the two merges may each win one of them. -/
theorem exists_mixed_not_serial (table : MappingTable) {first second : MappingTable}
    {key other : String} (hkey : Conflict first second key) (hother : Conflict first second other)
    (hne : key ≠ other) :
    ∃ entries, Mixed first second entries ∧
      ¬ Same (table.merge entries) (serial table first second) ∧
      ¬ Same (table.merge entries) (serial table second first) := by
  obtain ⟨one, two, hone, htwo, hdiffer⟩ := hkey
  obtain ⟨three, four, hthree, hfour, hdiffer'⟩ := hother
  have hentry : (key, one) ∈ first.entries := first.get?_eq_some_iff.1 hone
  have hmixed : Mixed first second _ := mixed_within hentry
  refine ⟨_, hmixed, fun hsame ↦ ?_, fun hsame ↦ ?_⟩
  · have hlast := hsame other
    rw [get?_merge, last?_within hentry, if_neg hne.symm, get?_serial, hthree, hfour] at hlast
    exact hdiffer' (Option.some.inj hlast)
  · have hlast := hsame key
    rw [get?_merge, last?_within hentry, if_pos rfl, get?_serial, hone, htwo] at hlast
    exact hdiffer (Option.some.inj hlast).symm

/-- Two merges at the same time, in whatever order they write their entries: each address ends up
with what was written to it last, the identity that one of the two sources has for it, or with what
it had. The table is always one that the merges leave one after the other if and only if the
sources differ in one place at most. -/
theorem mixed_merges (table first second : MappingTable) :
    (∀ entries, Mixed first second entries → ∀ key,
      (table.merge entries).get? key = (last? entries key).or (table.get? key) ∧
        OneOf (last? entries key) (first.get? key) (second.get? key)) ∧
    ((∀ entries, Mixed first second entries →
        Same (table.merge entries) (serial table first second) ∨
          Same (table.merge entries) (serial table second first)) ↔
      ∀ key other, Conflict first second key → Conflict first second other → key = other) := by
  refine ⟨fun entries h key ↦ ⟨get?_merge entries key table, h.oneOf key⟩, ?_, ?_⟩
  · intro hserial key other hkey hother
    refine Classical.byContradiction fun hne ↦ ?_
    obtain ⟨entries, hmixed, hfirst, hsecond⟩ := exists_mixed_not_serial table hkey hother hne
    exact (hserial entries hmixed).elim hfirst hsecond
  · exact fun hconflicts entries hmixed ↦ hmixed.same_serial_of_conflicts hconflicts

/-- Two merges that differ in one place, where the first one writes last. -/
theorem mixed_merges_sample :
    let alice : Identity := ⟨"alice", ["admins"]⟩
    let bob : Identity := ⟨"bob", ["guests"]⟩
    let first := MappingTable.ofList [("10.0.0.1", alice), ("10.0.0.2", alice)]
    let second := MappingTable.ofList [("10.0.0.1", bob), ("10.0.0.3", bob)]
    let entries := [("10.0.0.1", bob), ("10.0.0.1", alice), ("10.0.0.3", bob), ("10.0.0.2", alice)]
    Mixed first second entries ∧
      (MappingTable.empty.merge entries).get? "10.0.0.1" = some alice ∧
      (∀ key other, Conflict first second key → Conflict first second other → key = other) ∧
      (Same (MappingTable.empty.merge entries) (serial .empty first second) ∨
        Same (MappingTable.empty.merge entries) (serial .empty second first)) := by
  intro alice bob first second entries
  obtain ⟨hlast, hserial⟩ := mixed_merges .empty first second
  have hmixed : Mixed first second entries :=
    ⟨first.entries, second.entries, List.Perm.refl _, List.Perm.refl _,
      .right (.left (.right (.left .nil)))⟩
  have hconflict {key : String} (h : Conflict first second key) : key = "10.0.0.1" := by
    obtain ⟨one, other, hone, hother, -⟩ := h
    have hmem : (key, one) ∈ [("10.0.0.1", alice), ("10.0.0.2", alice)] :=
      first.get?_eq_some_iff.1 hone
    have hmem' : (key, other) ∈ [("10.0.0.1", bob), ("10.0.0.3", bob)] :=
      second.get?_eq_some_iff.1 hother
    simp only [List.mem_cons, Prod.mk.injEq, List.not_mem_nil, or_false] at hmem hmem'
    rcases hmem with ⟨rfl, -⟩ | ⟨rfl, -⟩
    · rfl
    · exact hmem'.elim And.left fun h ↦ absurd h.1 (by decide)
  have honce (key other : String) (hkey : Conflict first second key)
      (hother : Conflict first second other) : key = other :=
    (hconflict hkey).trans (hconflict hother).symm
  exact ⟨hmixed, (hlast entries hmixed "10.0.0.1").1.trans rfl, honce,
    hserial.2 honce entries hmixed⟩

/-- Two merges that differ in two places, with writes that alternate. -/
theorem mixed_not_serial :
    let alice : Identity := ⟨"alice", ["admins"]⟩
    let bob : Identity := ⟨"bob", ["guests"]⟩
    let first := MappingTable.ofList [("10.0.0.1", alice), ("10.0.0.2", alice)]
    let second := MappingTable.ofList [("10.0.0.1", bob), ("10.0.0.2", bob)]
    let entries := [("10.0.0.1", alice), ("10.0.0.1", bob), ("10.0.0.2", bob), ("10.0.0.2", alice)]
    Mixed first second entries ∧
      ¬ Same (MappingTable.empty.merge entries) (serial .empty first second) ∧
      ¬ Same (MappingTable.empty.merge entries) (serial .empty second first) := by
  intro alice bob first second entries
  refine ⟨⟨first.entries, second.entries, List.Perm.refl _, List.Perm.refl _, ?_⟩, ?_, ?_⟩
  · exact .left (.right (.right (.left .nil)))
  · exact fun hsame ↦ absurd (hsame "10.0.0.2") (by decide)
  · exact fun hsame ↦ absurd (hsame "10.0.0.1") (by decide)

end OverlayGateway.MappingSync
