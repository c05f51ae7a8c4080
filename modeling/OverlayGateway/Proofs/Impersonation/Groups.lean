import Mathlib.Data.List.Forall2
import OverlayGateway.Proofs.Impersonation.Identification
import OverlayGateway.Proofs.Settings
import OverlayGateway.Proofs.Text.Blank
/-!
The default groups from the environment to the API server. They are what stands between the commas
of a variable, blanks around it dropped, and they are sent with commas between them again. So
nothing is lost on the way, and what is sent could as well have been configured
(`configured_groups_presented`).
-/

set_option autoImplicit false
set_option relaxedAutoImplicit false

namespace OverlayGateway

/-! ### Entries of a list -/

theorem length_listEntries (value : String) :
    (listEntries value).length = value.toList.count ',' + 1 := by
  rw [listEntries, Text.split, List.length_map, List.length_map, Text.pieces,
    Text.length_piecesWhere]
  rfl

theorem unpadded_of_mem_listEntries {value entry : String} (h : entry ∈ listEntries value) :
    Text.Unpadded entry.toList := by
  obtain ⟨piece, -, rfl⟩ := List.mem_map.1 h
  rw [Text.toList_trim]
  exact Text.unpadded_trimChars piece.toList

theorem surrounds_listEntries (value : String) :
    List.Forall₂ (fun piece entry ↦ Text.Surrounds piece.toList entry.toList)
      (Text.split ',' value) (listEntries value) := by
  rw [listEntries, List.forall₂_map_right_iff, List.forall₂_same]
  intro piece _
  rw [Text.toList_trim]
  exact Text.surrounds_trimChars piece.toList

/-- Texts without commas and outer blanks are the entries of the list that is written with them. -/
theorem listEntries_intercalate {entries : List String} (hne : entries ≠ [])
    (hcommas : ∀ entry ∈ entries, ',' ∉ entry.toList)
    (hblanks : ∀ entry ∈ entries, Text.Unpadded entry.toList) :
    listEntries (",".intercalate entries) = entries := by
  have hsplit : Text.split ',' (",".intercalate entries) = entries :=
    (Text.split_intercalate rfl hne).trans (Text.flatMap_split_of_notMem hcommas)
  have htrim : entries.map Text.trim = entries.map id :=
    List.map_congr_left fun entry hentry ↦ Text.trim_eq_self_iff.2 (hblanks entry hentry)
  rw [listEntries, hsplit, htrim, List.map_id]

namespace Impersonation

open Http

theorem groups_of_set {env : Environment} {value : String}
    (hvalue : env.value? "PROXY_IMPERSONATE_GROUPS" = some value) (hne : value ≠ "") :
    (Policy.ofEnvironment env).1.fallback.groups = listEntries value := by
  have hset : env.nonEmpty? "PROXY_IMPERSONATE_GROUPS" = some value :=
    Environment.nonEmpty?_eq_some_iff.2 ⟨hvalue, hne⟩
  rw [groups_ofEnvironment, hset]
  rfl

/-- Assumes: the variable of the default groups is set to a text that is not empty. The groups are
what stands between its commas, blanks around each dropped, in order, one more than there are commas
even if nothing is left of some; none has a comma or a blank at an end. A caller without a mapping
that is presented in `auth` mode is presented with one text of which these groups are the entries,
and an environment with that text as its list of groups has the same. -/
theorem configured_groups_presented {env : Environment} {value : String}
    (hvalue : env.value? "PROXY_IMPERSONATE_GROUPS" = some value) (hne : value ≠ "") :
    let policy := (Policy.ofEnvironment env).1
    let groups := policy.fallback.groups
    (∃ pieces : List String, ",".intercalate pieces = value ∧ Separable pieces ∧
      List.Forall₂ (fun piece group ↦ Text.Surrounds piece.toList group.toList) pieces groups) ∧
    groups.length = value.toList.count ',' + 1 ∧
    (∀ group ∈ groups, ',' ∉ group.toList ∧ Text.Unpadded group.toList) ∧
    ∀ (table : MappingTable) (address : Ip.Address) (headers : Headers),
      policy.mode = .auth → table.get? address.text = none →
      (apply policy table address headers).failure = none →
        ∃ sent, (apply policy table address headers).headers.Carries groupHeader [sent] ∧
          listEntries sent = groups ∧
          ∀ other : Environment, other.value? "PROXY_IMPERSONATE_GROUPS" = some sent → sent ≠ "" →
            (Policy.ofEnvironment other).1.fallback.groups = groups := by
  intro policy groups
  have hgroups : groups = listEntries value := groups_of_set hvalue hne
  have hcommas : Separable groups := separable_ofEnvironment env
  have hblanks : ∀ group ∈ groups, Text.Unpadded group.toList := fun group hgroup ↦
    unpadded_of_mem_listEntries (hgroups ▸ hgroup)
  have hnonempty : groups ≠ [] := hgroups ▸ listEntries_ne_nil value
  refine ⟨⟨Text.split ',' value, Text.intercalate_split rfl value,
      fun _ ↦ Text.notMem_of_mem_split, ?surrounds⟩,
    ?length, fun group hgroup ↦ ⟨hcommas group hgroup, hblanks group hgroup⟩, ?presented⟩
  case surrounds => exact hgroups ▸ surrounds_listEntries value
  case length => exact hgroups ▸ length_listEntries value
  case presented =>
    intro table address headers hmode hunmapped hsucceeded
    have hentries : listEntries (",".intercalate groups) = groups :=
      listEntries_intercalate hnonempty hcommas hblanks
    have hcarries := carries_apply_of_unmapped hmode hunmapped hsucceeded
      (show isImpersonation groupHeader = true by decide)
    rw [text?_group_of_ne_nil hnonempty] at hcarries
    exact ⟨",".intercalate groups, hcarries, hentries,
      fun other hother hsent ↦ (groups_of_set hother hsent).trans hentries⟩

/-- A list with blanks of several kinds, an entry of nothing and a comma at the end. -/
theorem configured_groups_presented_sample :
    let env := Environment.ofList [("PROXY_IMPERSONATE_GROUPS", "\u00A0ops ,\t, dev team,")]
    let policy := (Policy.ofEnvironment env).1
    let address : Ip.Address := .v4 ⟨10, 0, 0, 1⟩
    policy.fallback.groups = ["ops", "", "dev team", ""] ∧
      ∃ sent, (apply policy .empty address .empty).headers.Carries groupHeader [sent] ∧
        listEntries sent = ["ops", "", "dev team", ""] := by
  intro env policy address
  have hgroups : policy.fallback.groups = ["ops", "", "dev team", ""] := by decide
  have hvalue : env.value? "PROXY_IMPERSONATE_GROUPS" = some "\u00A0ops ,\t, dev team," := rfl
  obtain ⟨-, -, -, hpresented⟩ := configured_groups_presented hvalue (by decide)
  obtain ⟨sent, hcarries, hentries, -⟩ :=
    hpresented .empty address .empty rfl rfl (by decide)
  exact ⟨hgroups, sent, hcarries, hentries.trans hgroups⟩

end Impersonation

end OverlayGateway
