import OverlayGateway.MappingTable
import OverlayGateway.Proofs.MappingTable.Merge
/-!
The listing of a table as a finite map: every address with an identity once, in the order of the
addresses, and nothing else.
-/

set_option autoImplicit false
set_option relaxedAutoImplicit false

namespace OverlayGateway

open Json

/-- A sorted object has the members that it is given, in the order of their names. -/
theorem Json.Value.exists_sorted (members : List (String × Value)) :
    ∃ ordered, sorted members = .object ordered ∧ ordered.Perm members ∧
      (ordered.map Prod.fst).Pairwise (· ≤ ·) := by
  have htrans (a b c : String × Value) (hab : decide (a.1 ≤ b.1) = true)
      (hbc : decide (b.1 ≤ c.1) = true) : decide (a.1 ≤ c.1) = true :=
    decide_eq_true (String.le_trans (of_decide_eq_true hab) (of_decide_eq_true hbc))
  have htotal (a b : String × Value) : (decide (a.1 ≤ b.1) || decide (b.1 ≤ a.1)) = true := by
    simpa using String.le_total a.1 b.1
  refine ⟨_, rfl, List.mergeSort_perm _ _, ?_⟩
  rw [List.pairwise_map]
  exact (List.pairwise_mergeSort htrans htotal members).imp of_decide_eq_true

/-- An identity as it is listed. -/
def Identity.listed (identity : Identity) : Value :=
  .object [("groups", .strings identity.groups), ("user", .string identity.user)]

theorem Identity.sorted_members (identity : Identity) :
    Value.sorted identity.members = identity.listed :=
  Value.sorted_pair (by decide) _ _

namespace MappingTable

/-- The members of an object list a finite map. -/
structure Lists (members : List (String × Value)) (map : String → Option Identity) : Prop where
  sorted : (members.map Prod.fst).Pairwise (· ≤ ·)
  nodup : (members.map Prod.fst).Nodup
  mem_iff : ∀ key value,
    (key, value) ∈ members ↔ ∃ identity, map key = some identity ∧ value = identity.listed

/-- A finite map is listed in one way. -/
theorem Lists.unique {members others : List (String × Value)} {map : String → Option Identity}
    (h : Lists members map) (hothers : Lists others map) : members = others := by
  have hperm : members.Perm others :=
    (List.perm_ext_iff_of_nodup (.of_map _ h.nodup) (.of_map _ hothers.nodup)).2
      fun (key, value) ↦ (h.mem_iff key value).trans (hothers.mem_iff key value).symm
  refine hperm.eq_of_pairwise ?_ (List.pairwise_map.1 h.sorted) (List.pairwise_map.1 hothers.sorted)
  rintro ⟨key, value⟩ ⟨other, value'⟩ hmem hmem' hle hge
  obtain rfl : key = other := String.le_antisymm hle hge
  obtain ⟨identity, hidentity, rfl⟩ := (h.mem_iff key value).1 hmem
  obtain ⟨identity', hidentity', rfl⟩ := (hothers.mem_iff key value').1 hmem'
  rw [hidentity, Option.some_inj] at hidentity'
  rw [hidentity']

theorem lists_document (table : MappingTable) :
    ∃ members, table.document = .object members ∧ Lists members table.get? := by
  obtain ⟨members, hsorted, hperm, hordered⟩ := Value.exists_sorted
    (table.entries.map fun entry ↦ (entry.1, Value.sorted entry.2.members))
  refine ⟨members, hsorted, hordered, ?nodup, fun key value ↦ ?mem⟩
  case nodup =>
    refine (hperm.map Prod.fst).nodup_iff.2 ?_
    rw [List.map_map]
    exact table.nodup
  case mem =>
    rw [hperm.mem_iff, List.mem_map]
    constructor
    · rintro ⟨⟨name, identity⟩, hmem, hentry⟩
      cases hentry
      exact ⟨identity, table.get?_eq_some_iff.2 hmem, identity.sorted_members⟩
    · rintro ⟨identity, hget, rfl⟩
      refine ⟨(key, identity), table.get?_eq_some_iff.1 hget, ?_⟩
      exact congrArg (Prod.mk key) identity.sorted_members

end MappingTable

end OverlayGateway
