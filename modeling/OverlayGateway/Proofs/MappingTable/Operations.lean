import Mathlib.Data.Set.Card
import OverlayGateway.Proofs.MappingTable.Concurrency
/-!
A table under a series of operations, from the empty one on. What is found under a key is what the
last change of the key has left, a copy of the table has one entry for each key with an identity,
and the size is the number of these keys. An operation that only reads is not noticed later on, and
neither is a change to a copy.
-/

set_option autoImplicit false
set_option relaxedAutoImplicit false

namespace OverlayGateway.MappingTable

/-! ### Operations and answers -/

/-- What is done with a table and with its copies, which are numbered as they are handed out. -/
inductive Operation where
  | set (key : String) (identity : Identity)
  | remove (key : String)
  | get (key : String)
  | all
  | size
  | isEmpty
  | amend (number : Nat) (change : MappingTable → MappingTable)

/-- The change that an operation makes to the table. -/
def Operation.write? : Operation → Option Write
  | .set key identity => some ⟨key, some identity⟩
  | .remove key => some ⟨key, none⟩
  | .get _ | .all | .size | .isEmpty | .amend _ _ => none

inductive Answer where
  | done
  | found (identity : Option Identity)
  | copy (table : MappingTable)
  | count (number : Nat)
  | truth (holds : Bool)

/-- A table, with the copies of it that have been handed out. -/
structure Holding where
  table : MappingTable := empty
  copies : List MappingTable := []

namespace Holding

def perform (holding : Holding) : Operation → Holding
  | .set key identity => { holding with table := holding.table.set key identity }
  | .remove key => { holding with table := holding.table.remove key }
  | .all => { holding with copies := holding.copies ++ [holding.table] }
  | .amend number change => { holding with copies := holding.copies.modify number change }
  | .get _ | .size | .isEmpty => holding

def answer (holding : Holding) : Operation → Answer
  | .set _ _ | .remove _ | .amend _ _ => .done
  | .get key => .found (holding.table.get? key)
  | .all => .copy holding.table
  | .size => .count holding.table.size
  | .isEmpty => .truth holding.table.isEmpty

/-- The answers to some operations, one after the other. -/
def answers : Holding → List Operation → List Answer
  | _, [] => []
  | holding, operation :: rest =>
    holding.answer operation :: (holding.perform operation).answers rest

/-- The table of a holding is changed by the change of an operation and by nothing else. -/
theorem table_perform (holding : Holding) (operation : Operation) :
    (holding.perform operation).table = holding.table.performAll operation.write?.toList := by
  cases operation <;> rfl

theorem table_foldl_perform (operations : List Operation) : ∀ holding : Holding,
    (operations.foldl perform holding).table =
      holding.table.performAll (operations.filterMap Operation.write?) := by
  induction operations with
  | nil => exact fun _ ↦ rfl
  | cons operation operations ih =>
    intro holding
    rw [List.foldl_cons, ih, table_perform, ← performAll_append, List.filterMap_cons]
    cases operation.write? <;> rfl

/-- The answers do not depend on the copies. -/
theorem answers_congr (operations : List Operation) : ∀ {first second : Holding},
    first.table = second.table → first.answers operations = second.answers operations := by
  induction operations with
  | nil => exact fun _ ↦ rfl
  | cons operation operations ih =>
    intro first second htable
    have hanswer : first.answer operation = second.answer operation := by
      cases operation <;> simp only [answer, htable]
    have hnext : (first.perform operation).table = (second.perform operation).table := by
      rw [table_perform, table_perform, htable]
    rw [answers, answers, hanswer, ih hnext]

theorem answers_append (before after : List Operation) : ∀ holding : Holding,
    holding.answers (before ++ after) =
      holding.answers before ++ (before.foldl perform holding).answers after := by
  induction before with
  | nil => exact fun _ ↦ rfl
  | cons operation before ih => exact fun holding ↦ congrArg (_ :: ·) (ih _)

@[simp] theorem length_answers (operations : List Operation) : ∀ holding : Holding,
    (holding.answers operations).length = operations.length := by
  induction operations with
  | nil => exact fun _ ↦ rfl
  | cons operation operations ih => exact fun _ ↦ congrArg (· + 1) (ih _)

/-- Each operation is answered by the holding that the ones before it leave. -/
theorem getElem?_answers (holding : Holding) (before : List Operation) (operation : Operation)
    (after : List Operation) :
    (holding.answers (before ++ operation :: after))[before.length]? =
      some ((before.foldl perform holding).answer operation) := by
  rw [answers_append, List.getElem?_append_right (by simp), length_answers, Nat.sub_self]
  rfl

/-- An operation that does not change the table could be left out. -/
theorem eraseIdx_answers (holding : Holding) (before : List Operation) {operation : Operation}
    (h : operation.write? = none) (after : List Operation) :
    (holding.answers (before ++ operation :: after)).eraseIdx before.length =
      holding.answers (before ++ after) := by
  have htable : ((before.foldl perform holding).perform operation).table =
      (before.foldl perform holding).table := by
    rw [table_perform, h]
    rfl
  rw [answers_append, answers_append, List.eraseIdx_append_of_length_le (by simp), length_answers,
    Nat.sub_self, answers, List.eraseIdx_zero, List.tail_cons, answers_congr after htable]

end Holding

/-! ### The table as a finite map -/

theorem IsLast.concat {write : Write} {writes : List Write} (h : IsLast write writes)
    {later : Write} (hlater : later.key ≠ write.key) : IsLast write (writes ++ [later]) := by
  obtain ⟨front, back, rfl, hback⟩ := h
  refine ⟨front, back ++ [later], by simp, fun other hother ↦ ?_⟩
  rcases List.mem_append.1 hother with hmem | hmem
  · exact hback other hmem
  · exact List.mem_singleton.1 hmem ▸ hlater

/-- What is found as the last change of a key is the last one. -/
theorem isLast_of_lastWrite?_eq {writes : List Write} {key : String} {write : Write}
    (h : lastWrite? writes key = some write) : write.key = key ∧ IsLast write writes := by
  induction writes using List.reverseRecOn with
  | nil => cases h
  | append_singleton writes later ih =>
    rw [lastWrite?_concat] at h
    split at h
    · next hkey =>
      cases h
      exact ⟨hkey, writes, [], rfl, fun _ hmem ↦ absurd hmem List.not_mem_nil⟩
    · next hkey =>
      obtain ⟨rfl, hlast⟩ := ih h
      exact ⟨rfl, hlast.concat hkey⟩

theorem get?_performAll_empty_iff {writes : List Write} {key : String} {identity : Identity} :
    (empty.performAll writes).get? key = some identity ↔ IsLast ⟨key, some identity⟩ writes := by
  constructor
  · intro h
    rw [get?_performAll] at h
    cases hlast : lastWrite? writes key with
    | none =>
      rw [hlast] at h
      cases h
    | some write =>
      obtain ⟨name, found⟩ := write
      obtain ⟨rfl, hwrite⟩ := isLast_of_lastWrite?_eq hlast
      rw [hlast, Option.elim_some] at h
      exact h ▸ hwrite
  · exact fun h ↦ get?_performAll_of_isLast h empty

/-- The size of a table is the number of the keys with an identity. -/
theorem encard_keys (table : MappingTable) :
    {key | ∃ identity, table.get? key = some identity}.encard = table.size := by
  have hkeys : {key | ∃ identity, table.get? key = some identity} =
      ((table.entries.map Prod.fst).toFinset : Set String) := by
    ext key
    simp [get?_eq_some_iff]
  rw [hkeys, Set.encard_coe_eq_coe_finsetCard, List.toFinset_card_of_nodup table.nodup,
    List.length_map, size]

theorem isEmpty_eq (table : MappingTable) : table.isEmpty = decide (table.size = 0) := by
  cases h : table.entries <;> simp [isEmpty, size, h]

/-- A table that starts out empty is a finite map, whatever is done with it before and afterwards. A
key has the identity that it was last set to, if it has not been removed since then, and otherwise
none. A copy of the table lists these keys with their identities, each key once. The size is their
number, and the table is empty if and only if there are none. An operation that only reads, or
changes a copy, could be left out: all other answers remain the same. -/
theorem operations_on_finite_map (before after : List Operation) :
    let answers := fun operations ↦ Holding.answers {} operations
    let answer? := fun operation ↦ (answers (before ++ operation :: after))[before.length]?
    let HasLast := fun key identity ↦
      IsLast ⟨key, some identity⟩ (before.filterMap Operation.write?)
    (∀ key, ∃ found, answer? (.get key) = some (.found found) ∧
      ∀ identity, found = some identity ↔ HasLast key identity) ∧
    (∃ copy, answer? .all = some (.copy copy) ∧ (copy.entries.map Prod.fst).Nodup ∧
      ∀ key identity, (key, identity) ∈ copy.entries ↔ HasLast key identity) ∧
    (∃ number, answer? .size = some (.count number) ∧
      answer? .isEmpty = some (.truth (decide (number = 0))) ∧
      {key | ∃ identity, HasLast key identity}.encard = number) ∧
    ∀ operation, operation.write? = none →
      (answers (before ++ operation :: after)).eraseIdx before.length =
        answers (before ++ after) := by
  intro answers answer? HasLast
  let table := (before.foldl Holding.perform {}).table
  have htable (key : String) (identity : Identity) :
      table.get? key = some identity ↔ HasLast key identity := by
    have hwrites : table = empty.performAll (before.filterMap Operation.write?) :=
      Holding.table_foldl_perform before {}
    rw [hwrites]
    exact get?_performAll_empty_iff
  have hanswer (operation : Operation) :
      answer? operation = some ((before.foldl Holding.perform {}).answer operation) :=
    Holding.getElem?_answers {} before operation after
  refine ⟨fun key ↦ ⟨table.get? key, hanswer _, htable key⟩,
    ⟨table, hanswer _, table.nodup, fun key identity ↦ ?copy⟩,
    ⟨table.size, hanswer _, ?empty, ?size⟩,
    fun operation hreads ↦ Holding.eraseIdx_answers {} before hreads after⟩
  case copy => rw [← get?_eq_some_iff, htable]
  case empty => exact (hanswer _).trans (congrArg (some <| Answer.truth ·) table.isEmpty_eq)
  case size =>
    rw [← encard_keys]
    simp only [htable]

/-- A mapping that is replaced, another that is removed, and a copy that is changed. -/
theorem operations_on_finite_map_sample :
    let before : List Operation := [.set "10.0.0.1" ⟨"alice", []⟩, .set "10.0.0.2" ⟨"bob", []⟩,
      .set "10.0.0.1" ⟨"carol", []⟩, .all, .remove "10.0.0.2"]
    let amend : Operation := .amend 0 fun copy ↦ copy.set "10.0.0.9" ⟨"mallory", []⟩
    amend.write? = none ∧
      IsLast ⟨"10.0.0.1", some ⟨"carol", []⟩⟩ (before.filterMap Operation.write?) ∧
      (Holding.answers {} (before ++ [amend, .get "10.0.0.1"])).eraseIdx 5 =
        Holding.answers {} (before ++ [.get "10.0.0.1"]) ∧
      (Holding.answers {} (before ++ [.get "10.0.0.1"]))[5]? =
        some (.found (some ⟨"carol", []⟩)) := by
  intro before amend
  have hlast : IsLast ⟨"10.0.0.1", some ⟨"carol", []⟩⟩ (before.filterMap Operation.write?) :=
    ⟨_ :: _ :: [], [_], rfl, by decide⟩
  obtain ⟨_, _, _, hkept⟩ := operations_on_finite_map before [.get "10.0.0.1"]
  obtain ⟨hget, _⟩ := operations_on_finite_map before []
  obtain ⟨found, hfound, hidentity⟩ := hget "10.0.0.1"
  rw [(hidentity ⟨"carol", []⟩).2 hlast] at hfound
  exact ⟨rfl, hlast, hkept amend rfl, hfound⟩

end OverlayGateway.MappingTable
