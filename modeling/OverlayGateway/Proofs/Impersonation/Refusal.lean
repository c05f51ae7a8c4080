import OverlayGateway.Proofs.Impersonation
/-!
When presenting a caller fails, and what a failure leaves. The mode has to be one, and in `auth`
mode the user and the groups of the caller's identity must not hold a control; nothing else counts,
and for a mapped caller the default identity never does. Whatever comes of it, the impersonation
headers of an `auth` mode are those that the gateway wrote, up to the first one that it could not
write, and all other headers are the caller's.
-/

set_option autoImplicit false
set_option relaxedAutoImplicit false

namespace OverlayGateway.Impersonation

open Http

/-! ### Why a caller cannot be presented -/

theorem not_sendableIdentity_iff {identity : Identity} :
    ¬ SendableIdentity identity ↔
      HasControl identity.user ∨ HasControl (",".intercalate identity.groups) := by
  rw [SendableIdentity, Classical.not_and_iff_not_or_not, not_sendable_iff, not_sendable_iff]

theorem failure_apply_eq_some_iff {policy : Policy} {table : MappingTable} {address : Ip.Address}
    {headers : Headers} {failure : Failure} :
    (apply policy table address headers).failure = some failure ↔
      (∃ name, policy.mode = .unrecognized name ∧ failure = .invalidMode name) ∨
        policy.mode = .auth ∧ failure = unsendable ∧
          ¬ SendableIdentity (resolve policy table address.text).identity := by
  cases hmode : policy.mode with
  | noAuth => simp [apply, hmode]
  | unrecognized name => simp [failure_apply_of_unrecognized hmode, eq_comm]
  | auth =>
    by_cases hidentity : SendableIdentity (resolve policy table address.text).identity
    · have hnone : (apply policy table address headers).failure = none :=
        failure_apply_eq_none_iff.2 (Or.inr ⟨hmode, hidentity⟩)
      simp [hnone, hidentity]
    · simp [failure_apply_of_unsendable hmode hidentity, hidentity, eq_comm]

/-- A mapped caller has the identity of the table, whatever the default one is. -/
theorem resolve_of_mapped {policy : Policy} {table : MappingTable} {address : String}
    {identity : Identity} (h : table.get? address = some identity) :
    resolve policy table address = ⟨identity, true⟩ := by
  rw [resolve, h]

theorem apply_of_mapped {policy : Policy} {table : MappingTable} {address : Ip.Address}
    {identity : Identity} (h : table.get? address.text = some identity) (fallback : Identity)
    (headers : Headers) :
    apply { policy with fallback } table address headers = apply policy table address headers := by
  simp only [apply, resolve_of_mapped h]

/-! ### What a failure leaves -/

/-- A step leaves its name as it was, or makes its text the only value. -/
theorem Draft.values_set_self (draft : Draft) (name : HeaderName) (text : String) :
    (draft.set name text).headers.values name = draft.headers.values name ∨
      (draft.set name text).headers.Carries name [text] := by
  cases hstep : (draft.set name text).failure with
  | none => exact Or.inr (Draft.carries_set hstep)
  | some failure =>
    left
    unfold Draft.set at hstep ⊢
    cases hdraft : draft.failure with
    | some earlier => rfl
    | none =>
      cases htext : HeaderValue.ofString? text with
      | none => rfl
      | some value => simp [hdraft, htext] at hstep

theorem Draft.values_setText?_self (draft : Draft) (name : HeaderName) (text : Option String) :
    (draft.setText? name text).headers.values name = draft.headers.values name ∨
      ∃ sent, text = some sent ∧ (draft.setText? name text).headers.Carries name [sent] := by
  cases text with
  | none => exact Or.inl rfl
  | some text => exact (draft.values_set_self name text).imp id fun h ↦ ⟨text, rfl, h⟩

/-- A series of steps leaves a name that has no value so, or makes its text the only value. -/
theorem Draft.values_setAll_of_clear {texts : HeaderName → Option String} {names : List HeaderName}
    (hnodup : names.Nodup) {name : HeaderName} :
    ∀ draft : Draft, draft.headers.values name = [] →
      (draft.setAll texts names).headers.values name = [] ∨
        ∃ sent, texts name = some sent ∧
          (draft.setAll texts names).headers.Carries name [sent] := by
  induction names with
  | nil => exact fun _ hclear ↦ Or.inl hclear
  | cons first names ih =>
    intro draft hclear
    obtain ⟨hfirst, hnodup⟩ := List.nodup_cons.1 hnodup
    by_cases hname : name = first
    · subst hname
      -- the name is written now, if at all, and no later step touches it
      have hrest := @Draft.values_setAll_of_notMem texts _ _ hfirst
        (draft.setText? name (texts name))
      rcases draft.values_setText?_self name (texts name) with hsame | ⟨sent, hsent, hcarries⟩
      · exact Or.inl (hrest.trans (hsame.trans hclear))
      · exact Or.inr ⟨sent, hsent, hcarries.of_values_eq hrest⟩
    · exact ih hnodup _ ((draft.values_setText?_of_ne _ hname).trans hclear)

section Auth

variable {policy : Policy} (hmode : policy.mode = .auth) (table : MappingTable)
  (address : Ip.Address) {name : HeaderName} (hname : isImpersonation name = true)

include hmode hname

/-- Nothing that a caller sent under an impersonation header is left, in success or failure. -/
theorem values_apply_congr (headers other : Headers) :
    (apply policy table address headers).headers.values name =
      (apply policy table address other).headers.values name := by
  have hstart : Draft.AgreeUnder name ⟨strip headers, none⟩ ⟨strip other, none⟩ :=
    ⟨rfl, by simp only [values_strip, if_pos hname]⟩
  rw [apply_auth hmode, apply_auth hmode]
  exact hstart.setAll.values

theorem values_apply_of_isImpersonation (headers : Headers) :
    (apply policy table address headers).headers.values name = [] ∨
      ∃ text, text? (resolve policy table address.text).identity address.text name = some text ∧
        (apply policy table address headers).headers.Carries name [text] := by
  rw [apply_auth hmode]
  exact Draft.values_setAll_of_clear nodup_written _ (by rw [values_strip, if_pos hname])

end Auth

/-- Presenting a caller fails for two reasons: the mode is none, or it is `auth` and the user or the
joined groups of the identity that the caller's address resolves to hold a control. The identity of
a mapped caller is that of the table, and then the default one makes no difference to anything. In
the other modes the headers stay as they are. In `auth` mode, in success and in failure, each
impersonation header has the same values whatever the caller sent, namely none or the one text that
the gateway writes there, and every other header keeps its values. -/
theorem apply_fails_closed (policy : Policy) (table : MappingTable) (address : Ip.Address)
    (headers : Headers) :
    let draft := apply policy table address headers
    let identity := (resolve policy table address.text).identity
    (∀ failure, draft.failure = some failure ↔
        (∃ name, policy.mode = .unrecognized name ∧ failure = .invalidMode name) ∨
          policy.mode = .auth ∧ failure = unsendable ∧
            (HasControl identity.user ∨ HasControl (",".intercalate identity.groups))) ∧
      (∀ mapped, table.get? address.text = some mapped → identity = mapped ∧
        ∀ fallback, apply { policy with fallback } table address headers = draft) ∧
      (policy.mode ≠ .auth → draft.headers = headers) ∧
      (policy.mode = .auth → ∀ name,
        (isImpersonation name = true →
          (∀ other, draft.headers.values name =
            (apply policy table address other).headers.values name) ∧
          (draft.headers.values name = [] ∨ ∃ text,
            text? identity address.text name = some text ∧ draft.headers.Carries name [text])) ∧
        (isImpersonation name = false → draft.headers.values name = headers.values name)) := by
  intro draft identity
  refine ⟨fun failure ↦ ?_, fun mapped hmapped ↦ ⟨?_, fun fallback ↦ ?_⟩, fun hmode ↦ ?_,
    fun hmode name ↦ ⟨fun hname ↦ ⟨fun other ↦ ?_, ?_⟩, fun hname ↦ ?_⟩⟩
  · rw [← not_sendableIdentity_iff]
    exact failure_apply_eq_some_iff
  · exact congrArg Resolution.identity (resolve_of_mapped hmapped)
  · exact apply_of_mapped hmapped fallback headers
  · exact headers_apply_of_ne_auth hmode table address headers
  · exact values_apply_congr hmode table address hname headers other
  · exact values_apply_of_isImpersonation hmode table address hname headers
  · exact values_apply_of_not_impersonation policy table address headers hname

/-- A mapped caller whose group holds a line feed is refused, though the default identity could be
sent. The user that it claims to be is gone, and another header of its own is left. -/
theorem apply_fails_closed_sample :
    let address : Ip.Address := .v4 ⟨10, 0, 0, 1⟩
    let identity : Identity := ⟨"alice", ["ops\n"]⟩
    let policy : Policy := {}
    let table := MappingTable.ofList [("10.0.0.1", identity)]
    let coding : HeaderValue := ⟨Text.utf8 "trailers", by decide, false⟩
    let claimed := (Headers.empty.insert userHeader ⟨Text.utf8 "root", by decide, false⟩).insert
      .te coding
    let draft := apply policy table address claimed
    policy.mode = .auth ∧ table.get? address.text = some identity ∧
      draft.failure = some unsendable ∧
      apply { policy with fallback := ⟨"mallory", []⟩ } table address claimed = draft ∧
      draft.headers.Carries userHeader ["alice"] ∧ draft.headers.values .te = [coding] := by
  intro address identity policy table coding claimed draft
  have hmode : policy.mode = .auth := rfl
  have hmapped : table.get? address.text = some identity := by decide
  obtain ⟨hfailure, hidentity, -, hheaders⟩ := apply_fails_closed policy table address claimed
  have hcontrol : HasControl (",".intercalate identity.groups) := ⟨0x0A, by decide, by decide⟩
  have hresolved := (hidentity identity hmapped).1
  refine ⟨hmode, hmapped, (hfailure _).2 (Or.inr ⟨hmode, rfl, Or.inr ?_⟩),
    (hidentity identity hmapped).2 _, ?_, ?_⟩
  · rw [hresolved]
    exact hcontrol
  · -- the header of the user is written before that of the groups fails
    obtain ⟨-, hclear | ⟨text, htext, hcarries⟩⟩ := (hheaders hmode userHeader).1 rfl
    · exact absurd hclear (by decide)
    · cases htext
      exact hcarries
  · rw [(hheaders hmode .te).2 rfl]
    decide

end OverlayGateway.Impersonation
