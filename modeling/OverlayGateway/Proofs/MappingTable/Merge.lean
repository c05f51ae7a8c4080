import Mathlib.Data.List.Nodup
import OverlayGateway.MappingTable
import OverlayGateway.Proofs.Result
/-!
What merging leaves under each key: the identity of the last entry with that key, or what was there
before. Merging a whole table does not depend on the order in which its entries come, and is one
change for each of them.
-/

set_option autoImplicit false
set_option relaxedAutoImplicit false

namespace OverlayGateway

/-- One change of a table: an identity for a key, or none any more. -/
structure Write where
  key : String
  identity : Option Identity

namespace MappingTable

theorem get?_set (table : MappingTable) (key other : String) (identity : Identity) :
    (table.set key identity).get? other =
      if key = other then some identity else table.get? other := by
  by_cases h : key = other
  · rw [if_pos h, ← h, get?_set_self]
  · rw [if_neg h, get?_set_of_ne table identity (Ne.symm h)]

theorem get?_remove (table : MappingTable) (key other : String) :
    (table.remove key).get? other = if key = other then none else table.get? other := by
  by_cases h : key = other
  · rw [if_pos h, ← h, get?_remove_self]
  · rw [if_neg h, get?_remove_of_ne table (Ne.symm h)]

/-! ### Entries by key -/

theorem get?_eq_some_iff (table : MappingTable) {key : String} {identity : Identity} :
    table.get? key = some identity ↔ (key, identity) ∈ table.entries :=
  lookup_eq_some_iff table.nodup

theorem lookup_perm {first second : List (String × Identity)} (h : first.Perm second)
    (hnodup : (first.map Prod.fst).Nodup) (key : String) :
    first.lookup key = second.lookup key := by
  have hnodup' : (second.map Prod.fst).Nodup := (h.map Prod.fst).nodup_iff.1 hnodup
  refine Option.ext fun identity ↦ ?_
  rw [lookup_eq_some_iff hnodup, lookup_eq_some_iff hnodup', h.mem_iff]

/-- Tables in which the same is found have the same entries. -/
theorem perm_entries_of_get?_eq {first second : MappingTable}
    (h : ∀ key, first.get? key = second.get? key) : first.entries.Perm second.entries := by
  refine (List.perm_ext_iff_of_nodup (List.Nodup.of_map _ first.nodup)
    (List.Nodup.of_map _ second.nodup)).2 ?_
  rintro ⟨key, identity⟩
  rw [← get?_eq_some_iff, ← get?_eq_some_iff, h key]

/-! ### Merging -/

/-- The identity that the last entry with a key has. -/
def last? (entries : List (String × Identity)) (key : String) : Option Identity :=
  entries.reverse.lookup key

theorem last?_cons (entry : String × Identity) (entries : List (String × Identity))
    (key : String) :
    last? (entry :: entries) key =
      (last? entries key).or (if entry.1 = key then some entry.2 else none) := by
  obtain ⟨name, identity⟩ := entry
  have hsingle : [(name, identity)].lookup key = if name = key then some identity else none := by
    rw [List.lookup_cons, List.lookup_nil]
    by_cases h : name = key
    · simp [h]
    · simp [beq_eq_false_iff_ne.2 (Ne.symm h), h]
  rw [last?, List.reverse_cons, List.lookup_append, hsingle, last?]

theorem last?_append (first second : List (String × Identity)) (key : String) :
    last? (first ++ second) key = (last? second key).or (last? first key) := by
  rw [last?, List.reverse_append, List.lookup_append, last?, last?]

/-- The last entry counts, and where there is none the table does. -/
theorem get?_merge (entries : List (String × Identity)) (key : String) :
    ∀ table : MappingTable,
      (table.merge entries).get? key = (last? entries key).or (table.get? key) := by
  induction entries with
  | nil => exact fun _ ↦ rfl
  | cons entry entries ih =>
    intro table
    rw [last?_cons, Option.or_assoc]
    refine (ih (table.set entry.1 entry.2)).trans ?_
    rw [get?_set]
    split <;> rfl

/-- The entries of a table, in any order. -/
theorem last?_of_perm {payload : MappingTable} {entries : List (String × Identity)}
    (h : entries.Perm payload.entries) (key : String) : last? entries key = payload.get? key := by
  have horder : entries.reverse.Perm payload.entries := (List.reverse_perm entries).trans h
  exact (lookup_perm horder.symm payload.nodup key).symm

theorem get?_merge_entries (table payload : MappingTable) (key : String) :
    (table.merge payload.entries).get? key = (payload.get? key).or (table.get? key) := by
  rw [get?_merge, last?_of_perm (List.Perm.refl payload.entries)]

/-! ### Changes, one key at a time -/

def perform (table : MappingTable) (write : Write) : MappingTable :=
  match write.identity with
  | some identity => table.set write.key identity
  | none => table.remove write.key

/-- The table after some changes, in order. -/
def performAll (table : MappingTable) (writes : List Write) : MappingTable :=
  writes.foldl perform table

/-- The changes that merging a table comes to. -/
def writes (payload : MappingTable) : List Write :=
  payload.entries.map fun entry ↦ ⟨entry.1, some entry.2⟩

theorem merge_eq_performAll (table payload : MappingTable) :
    table.merge payload.entries = table.performAll payload.writes := by
  rw [performAll, writes, List.foldl_map]
  rfl

theorem mem_writes_iff {payload : MappingTable} {write : Write} :
    write ∈ payload.writes ↔
      ∃ identity, write.identity = some identity ∧ payload.get? write.key = some identity := by
  simp only [writes, List.mem_map, get?_eq_some_iff]
  constructor
  · rintro ⟨⟨key, identity⟩, hentry, rfl⟩
    exact ⟨identity, rfl, hentry⟩
  · obtain ⟨key, value⟩ := write
    rintro ⟨identity, rfl, hentry⟩
    exact ⟨_, hentry, rfl⟩

end MappingTable

end OverlayGateway
