import OverlayGateway.Proofs.Impersonation
import OverlayGateway.Proofs.Text.Split
import OverlayGateway.Settings
/-!
What a presentation says about an identity. The user can be read off the headers of a caller, an
empty one by the missing header. The groups are joined with commas, so of them just the pieces
between commas can be read off: a group that holds a comma is presented as several. Groups without
commas, as all of the default ones that are configured, are presented as what they are.
-/

set_option autoImplicit false
set_option relaxedAutoImplicit false

namespace OverlayGateway.Impersonation

open Http

/-- Whether two collections have the same user and the same groups, byte by byte. -/
def PresentAlike (first second : Headers) : Prop :=
  ∀ name ∈ [userHeader, groupHeader],
    (first.values name).map HeaderValue.bytes = (second.values name).map HeaderValue.bytes

/-- The names of groups as the commas between them and in them show them. -/
def groupPieces (groups : List String) : List String := groups.flatMap (Text.split ',')

theorem groupPieces_eq_nil_iff {groups : List String} : groupPieces groups = [] ↔ groups = [] := by
  constructor
  · intro h
    refine List.eq_nil_iff_forall_not_mem.2 fun group hgroup ↦ ?_
    have hsplit := List.flatMap_eq_nil_iff.1 h group hgroup
    rw [Text.split, List.map_eq_nil_iff] at hsplit
    exact Text.piecesWhere_ne_nil _ _ hsplit
  · rintro rfl
    rfl

/-! ### Texts of identities -/

section Texts

variable (one other : Identity) (address : String)

theorem text?_user_eq_iff :
    text? one address userHeader = text? other address userHeader ↔ one.user = other.user := by
  simp only [text?, if_true]
  by_cases hone : one.user = "" <;> by_cases hother : other.user = "" <;>
    simp [hone, hother, eq_comm]

theorem text?_group_eq_iff :
    text? one address groupHeader = text? other address groupHeader ↔
      groupPieces one.groups = groupPieces other.groups := by
  have hne : groupHeader ≠ userHeader := by decide
  simp only [text?, if_true, if_neg hne]
  -- the header is missing if there is no group, and then there is no piece either
  by_cases hone : one.groups = []
  · have hnil : groupPieces one.groups = [] := groupPieces_eq_nil_iff.2 hone
    by_cases hother : other.groups = []
    · rw [if_pos hone, if_pos hother, hone, hother]
      simp only
    · have hnotNil : groupPieces other.groups ≠ [] := hother ∘ groupPieces_eq_nil_iff.1
      rw [if_pos hone, if_neg hother, hnil]
      exact iff_of_false (Option.some_ne_none _).symm hnotNil.symm
  · by_cases hother : other.groups = []
    · have hnil : groupPieces other.groups = [] := groupPieces_eq_nil_iff.2 hother
      have hnotNil : groupPieces one.groups ≠ [] := hone ∘ groupPieces_eq_nil_iff.1
      rw [if_neg hone, if_pos hother, hnil]
      exact iff_of_false (Option.some_ne_none _) hnotNil
    · rw [if_neg hone, if_neg hother, Option.some.injEq]
      exact Text.intercalate_eq_iff rfl hone hother

end Texts

/-! ### Groups without commas -/

/-- No group has a comma in its name. -/
def Separable (groups : List String) : Prop := ∀ group ∈ groups, ',' ∉ group.toList

theorem groupPieces_of_separable {groups : List String} (h : Separable groups) :
    groupPieces groups = groups :=
  Text.flatMap_split_of_notMem h

theorem separable_listEntries (value : String) : Separable (listEntries value) := by
  intro entry hentry hcomma
  obtain ⟨piece, hpiece, rfl⟩ := List.mem_map.1 hentry
  rw [Text.toList_trim] at hcomma
  exact Text.notMem_of_mem_split hpiece (Text.mem_of_mem_trimChars hcomma)

theorem groups_ofEnvironment (env : Environment) :
    (Policy.ofEnvironment env).1.fallback.groups =
      ((env.nonEmpty? "PROXY_IMPERSONATE_GROUPS").map listEntries).getD
        Identity.overlayPeer.groups :=
  rfl

/-- A list of groups that the environment holds is written with commas, so none is in a name. -/
theorem separable_ofEnvironment (env : Environment) :
    Separable (Policy.ofEnvironment env).1.fallback.groups := by
  rw [groups_ofEnvironment]
  cases env.nonEmpty? "PROXY_IMPERSONATE_GROUPS" with
  | none => exact show ∀ group ∈ Identity.overlayPeer.groups, ',' ∉ group.toList by decide
  | some value => exact separable_listEntries value

/-! ### Presentations -/

/-- Headers that carry at most one text under a name are alike there if the texts are the same. -/
theorem carries_alike_iff {first second : Headers} {name : HeaderName} {one other : Option String}
    (hone : first.Carries name one.toList) (hother : second.Carries name other.toList) :
    (first.values name).map HeaderValue.bytes = (second.values name).map HeaderValue.bytes ↔
      one = other := by
  rw [hone, hother]
  refine ⟨fun h ↦ ?_, fun h ↦ h ▸ rfl⟩
  have hlists : one.toList = other.toList := (List.map_inj_right fun _ _ ↦ Text.utf8_injective).1 h
  calc one = one.toList.head? := Option.head?_toList.symm
    _ = other.toList.head? := congrArg List.head? hlists
    _ = other := Option.head?_toList

theorem presentAlike_iff_text? {first second : Headers} {one other : Identity} {address : String}
    (hone : ∀ name ∈ [userHeader, groupHeader], first.Carries name (text? one address name).toList)
    (hother : ∀ name ∈ [userHeader, groupHeader],
      second.Carries name (text? other address name).toList) :
    PresentAlike first second ↔
      one.user = other.user ∧ groupPieces one.groups = groupPieces other.groups := by
  simp only [PresentAlike, List.forall_mem_cons, List.not_mem_nil, false_imp_iff, implies_true,
    and_true] at hone hother ⊢
  rw [carries_alike_iff hone.1 hother.1, carries_alike_iff hone.2 hother.2, text?_user_eq_iff,
    text?_group_eq_iff]

theorem eq_iff_of_separable {one other : Identity} (hone : Separable one.groups)
    (hother : Separable other.groups) :
    one.user = other.user ∧ groupPieces one.groups = groupPieces other.groups ↔ one = other := by
  rw [groupPieces_of_separable hone, groupPieces_of_separable hother]
  cases one
  cases other
  simp

/-- Assumes: two callers at an address, each with a policy, a table and headers of its own, that
both can be presented in `auth` mode. They are presented alike if and only if their users are the
same and their groups have the same pieces between commas, in order. So without commas in the groups
they are presented alike only if they are the same, and the groups that the environment holds have
none. -/
theorem presented_alike_iff {policy otherPolicy : Policy} (hmode : policy.mode = .auth)
    (hotherMode : otherPolicy.mode = .auth) (table otherTable : MappingTable)
    (address : Ip.Address) (headers otherHeaders : Headers)
    (hsucceeded : (apply policy table address headers).failure = none)
    (hotherSucceeded : (apply otherPolicy otherTable address otherHeaders).failure = none) :
    let one := (resolve policy table address.text).identity
    let other := (resolve otherPolicy otherTable address.text).identity
    let alike := PresentAlike (apply policy table address headers).headers
      (apply otherPolicy otherTable address otherHeaders).headers
    (alike ↔ one.user = other.user ∧ groupPieces one.groups = groupPieces other.groups) ∧
      (Separable one.groups → Separable other.groups → (alike ↔ one = other)) ∧
      ∀ env : Environment, Separable (Policy.ofEnvironment env).1.fallback.groups := by
  intro one other alike
  have himpersonation : ∀ name ∈ [userHeader, groupHeader], isImpersonation name = true := by decide
  have halike : alike ↔ one.user = other.user ∧ groupPieces one.groups = groupPieces other.groups :=
    presentAlike_iff_text?
      (fun _ hname ↦ carries_apply hmode table address headers hsucceeded (himpersonation _ hname))
      (fun _ hname ↦ carries_apply hotherMode otherTable address otherHeaders hotherSucceeded
        (himpersonation _ hname))
  exact ⟨halike, fun hone hother ↦ halike.trans (eq_iff_of_separable hone hother),
    separable_ofEnvironment⟩

/-- A list of groups from the environment and the same with an empty group behind it are told apart,
also if the second caller claims to have a group of its own. -/
theorem presented_alike_sample :
    let address : Ip.Address := .v4 ⟨10, 0, 0, 1⟩
    let env := Environment.ofList
      [("PROXY_IMPERSONATE_USER", "alice"), ("PROXY_IMPERSONATE_GROUPS", "ops, dev")]
    let policy := (Policy.ofEnvironment env).1
    let table := MappingTable.ofList [("10.0.0.1", ⟨"alice", ["ops", "dev", ""]⟩)]
    let claimed := Headers.empty.insert groupHeader ⟨Text.utf8 "system:masters", by decide, false⟩
    policy.mode = .auth ∧ (apply policy .empty address .empty).failure = none ∧
      (apply policy table address claimed).failure = none ∧
      ¬ PresentAlike (apply policy .empty address .empty).headers
        (apply policy table address claimed).headers := by
  intro address env policy table claimed
  have hmode : policy.mode = .auth := rfl
  have hone : (apply policy .empty address .empty).failure = none := by decide
  have hother : (apply policy table address claimed).failure = none := by decide
  obtain ⟨-, hdistinct, henv⟩ :=
    presented_alike_iff hmode hmode .empty table address .empty claimed hone hother
  have hseparable : Separable ["ops", "dev", ""] := by
    simp only [Separable]
    decide
  refine ⟨hmode, hone, hother, fun halike ↦ ?_⟩
  have hsame := (hdistinct (henv env) hseparable).1 halike
  exact absurd hsame (by decide)

/-- One group with a comma and the two groups on its sides are presented alike. -/
theorem comma_presented_alike :
    let address : Ip.Address := .v4 ⟨10, 0, 0, 1⟩
    let one := MappingTable.ofList [("10.0.0.1", ⟨"alice", ["a,b"]⟩)]
    let two := MappingTable.ofList [("10.0.0.1", ⟨"alice", ["a", "b"]⟩)]
    let policy : Policy := {}
    policy.mode = .auth ∧ (apply policy one address .empty).failure = none ∧
      (apply policy two address .empty).failure = none ∧
      PresentAlike (apply policy one address .empty).headers
        (apply policy two address .empty).headers ∧
      (resolve policy one address.text).identity.groups ≠
        (resolve policy two address.text).identity.groups := by
  refine ⟨rfl, by decide, by decide, ?_, by decide⟩
  simp only [PresentAlike]
  decide

end OverlayGateway.Impersonation
