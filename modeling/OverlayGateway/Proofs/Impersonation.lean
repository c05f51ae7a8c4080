import OverlayGateway.Impersonation
import OverlayGateway.Proofs.Http.Headers
import OverlayGateway.Proofs.Http.Sendable
import OverlayGateway.Proofs.Text.Visible
/-!
What presenting a caller leaves under each header name. In `auth` mode the impersonation headers
are those of the identity that the caller's address resolves to, whatever the caller sent, and all
other headers are the caller's. A failure depends on the identity and the address alone: a mode
that is none, or a user or groups that no header can hold.
-/

set_option autoImplicit false
set_option relaxedAutoImplicit false

namespace OverlayGateway.Impersonation

open Http

/-- The text that an identity and an address put under a name: none for an empty user, an empty
list of groups and a name that presenting a caller does not write. -/
def text? (identity : Identity) (address : String) (name : HeaderName) : Option String :=
  if name = userHeader then (if identity.user = "" then none else some identity.user)
  else if name = groupHeader then
    (if identity.groups = [] then none else some (",".intercalate identity.groups))
  else if name = extraUserHeader then some address
  else if name = extraGroupHeader then some overlayTag
  else none

/-- The names that presenting a caller may write. -/
def written : List HeaderName := [userHeader, groupHeader, extraUserHeader, extraGroupHeader]

theorem nodup_written : written.Nodup := by decide

theorem mem_written_of_text? {identity : Identity} {address text : String} {name : HeaderName}
    (h : text? identity address name = some text) : name ∈ written := by
  simp only [written, List.mem_cons, List.not_mem_nil, or_false]
  by_cases huser : name = userHeader
  · exact Or.inl huser
  · by_cases hgroup : name = groupHeader
    · exact Or.inr (Or.inl hgroup)
    · by_cases hextraUser : name = extraUserHeader
      · exact Or.inr (Or.inr (Or.inl hextraUser))
      · by_cases hextraGroup : name = extraGroupHeader
        · exact Or.inr (Or.inr (Or.inr hextraGroup))
        · rw [text?, if_neg huser, if_neg hgroup, if_neg hextraUser, if_neg hextraGroup] at h
          cases h

theorem isImpersonation_of_mem_written {name : HeaderName} (h : name ∈ written) :
    isImpersonation name = true := by
  simp only [written, List.mem_cons, List.not_mem_nil, or_false] at h
  rcases h with rfl | rfl | rfl | rfl <;> decide

/-! ### Drafts, header by header -/

/-- Sets a header if there is a text for it. -/
def Draft.setText? (draft : Draft) (name : HeaderName) : Option String → Draft
  | none => draft
  | some text => draft.set name text

/-- Sets the headers of a list of names for which there are texts. -/
def Draft.setAll (draft : Draft) (texts : HeaderName → Option String) (names : List HeaderName) :
    Draft :=
  names.foldl (fun draft name ↦ draft.setText? name (texts name)) draft

theorem present_eq_setAll (identity : Identity) (address : String) (headers : Headers) :
    present identity address headers =
      Draft.setAll ⟨headers, none⟩ (text? identity address) written := by
  have hgroup : groupHeader ≠ userHeader := by decide
  have hextraUser : extraUserHeader ≠ userHeader ∧ extraUserHeader ≠ groupHeader := by decide
  have hextraGroup : extraGroupHeader ≠ userHeader ∧ extraGroupHeader ≠ groupHeader ∧
      extraGroupHeader ≠ extraUserHeader := by decide
  simp only [present, Draft.setAll, written, List.foldl_cons, List.foldl_nil, text?, hgroup,
    hextraUser, hextraGroup, if_true, if_false]
  by_cases huser : identity.user = "" <;> by_cases hgroups : identity.groups = [] <;>
    simp [huser, hgroups, Draft.setText?]

theorem Draft.failure_of_set {draft : Draft} {name : HeaderName} {text : String}
    (h : (draft.set name text).failure = none) : draft.failure = none := by
  unfold Draft.set at h
  split at h
  · exact h
  · assumption

/-- A step that succeeds makes its text the only value of its name. -/
theorem Draft.carries_set {draft : Draft} {name : HeaderName} {text : String}
    (h : (draft.set name text).failure = none) :
    (draft.set name text).headers.Carries name [text] := by
  have hdraft := Draft.failure_of_set h
  unfold Draft.set at h ⊢
  simp only [hdraft] at h ⊢
  split at h
  · rename_i value hvalue
    exact Headers.carries_insert _ _ (HeaderValue.bytes_of_ofString? hvalue)
  · cases h

theorem Draft.values_set_of_ne (draft : Draft) {name other : HeaderName} (text : String)
    (hname : other ≠ name) :
    (draft.set name text).headers.values other = draft.headers.values other := by
  unfold Draft.set
  split
  · rfl
  · split
    · exact Headers.values_insert_of_ne _ _ hname
    · rfl

theorem Draft.failure_of_setText? {draft : Draft} {name : HeaderName} {text : Option String}
    (h : (draft.setText? name text).failure = none) : draft.failure = none := by
  cases text with
  | none => exact h
  | some text => exact Draft.failure_of_set h

theorem Draft.values_setText?_of_ne (draft : Draft) {name other : HeaderName}
    (text : Option String) (hname : other ≠ name) :
    (draft.setText? name text).headers.values other = draft.headers.values other := by
  cases text with
  | none => rfl
  | some text => exact draft.values_set_of_ne text hname

theorem Draft.carries_setText? {draft : Draft} {name : HeaderName} {text : Option String}
    (hclear : draft.headers.values name = []) (h : (draft.setText? name text).failure = none) :
    (draft.setText? name text).headers.Carries name text.toList := by
  cases text with
  | none => exact (Headers.carries_nil_iff _ _).2 hclear
  | some text => exact Draft.carries_set h

theorem Draft.failure_of_setAll {texts : HeaderName → Option String} {names : List HeaderName} :
    ∀ {draft : Draft}, (draft.setAll texts names).failure = none → draft.failure = none := by
  induction names with
  | nil => exact id
  | cons name names ih => exact fun h ↦ Draft.failure_of_setText? (ih h)

theorem Draft.values_setAll_of_notMem {texts : HeaderName → Option String}
    {names : List HeaderName} {name : HeaderName} (hname : name ∉ names) :
    ∀ draft : Draft,
      (draft.setAll texts names).headers.values name = draft.headers.values name := by
  induction names with
  | nil => exact fun _ ↦ rfl
  | cons first names ih =>
    intro draft
    simp only [List.mem_cons, not_or] at hname
    exact (ih hname.2 _).trans (draft.values_setText?_of_ne _ hname.1)

/-- Without a failure, each listed name ends up with its text as the only value, or without a value
if there is none for it. -/
theorem Draft.carries_setAll {texts : HeaderName → Option String} {names : List HeaderName}
    (hnodup : names.Nodup) {name : HeaderName} (hname : name ∈ names) :
    ∀ draft : Draft, draft.headers.values name = [] →
      (draft.setAll texts names).failure = none →
        (draft.setAll texts names).headers.Carries name (texts name).toList := by
  induction names with
  | nil => cases hname
  | cons first names ih =>
    intro draft hclear hsucceeded
    obtain ⟨hfirst, hnodup⟩ := List.nodup_cons.1 hnodup
    rcases List.mem_cons.1 hname with rfl | hname
    · -- the name is written now, and no later step touches it
      exact (Draft.carries_setText? hclear (Draft.failure_of_setAll hsucceeded)).of_values_eq
        (Draft.values_setAll_of_notMem hfirst _)
    · have hne : name ≠ first := fun h ↦ hfirst (h ▸ hname)
      exact ih hnodup hname _ ((draft.values_setText?_of_ne _ hne).trans hclear) hsucceeded

/-! ### Callers in `auth` mode -/

theorem values_strip (headers : Headers) (name : HeaderName) :
    (strip headers).values name = if isImpersonation name then [] else headers.values name :=
  headers.values_eraseWhere isImpersonation name

theorem apply_auth {policy : Policy} (hmode : policy.mode = .auth) (table : MappingTable)
    (address : Ip.Address) (headers : Headers) :
    apply policy table address headers =
      Draft.setAll ⟨strip headers, none⟩
        (text? (resolve policy table address.text).identity address.text) written := by
  rw [apply, hmode]
  exact present_eq_setAll _ _ _

/-- The impersonation headers of a caller that can be presented, all of them and nothing else. -/
theorem carries_apply {policy : Policy} (hmode : policy.mode = .auth) (table : MappingTable)
    (address : Ip.Address) (headers : Headers)
    (hsucceeded : (apply policy table address headers).failure = none) {name : HeaderName}
    (hname : isImpersonation name = true) :
    (apply policy table address headers).headers.Carries name
      (text? (resolve policy table address.text).identity address.text name).toList := by
  rw [apply_auth hmode] at hsucceeded ⊢
  have hclear : (strip headers).values name = [] := by rw [values_strip, if_pos hname]
  by_cases hwritten : name ∈ written
  · exact Draft.carries_setAll nodup_written hwritten _ hclear hsucceeded
  · have hnone : text? (resolve policy table address.text).identity address.text name = none :=
      Option.eq_none_iff_forall_ne_some.2 fun _ h ↦ hwritten (mem_written_of_text? h)
    rw [hnone, Option.toList_none, Headers.carries_nil_iff, ← hclear]
    exact Draft.values_setAll_of_notMem hwritten _

/-- Without a mapping they are those of the fallback. -/
theorem carries_apply_of_unmapped {policy : Policy} (hmode : policy.mode = .auth)
    {table : MappingTable} {address : Ip.Address} (hunmapped : table.get? address.text = none)
    {headers : Headers} (hsucceeded : (apply policy table address headers).failure = none)
    {name : HeaderName} (hname : isImpersonation name = true) :
    (apply policy table address headers).headers.Carries name
      (text? policy.fallback address.text name).toList := by
  have hidentity : (resolve policy table address.text).identity = policy.fallback := by
    rw [resolve, hunmapped]
  exact hidentity ▸ carries_apply hmode table address headers hsucceeded hname

theorem text?_user_of_ne_empty {identity : Identity} (h : identity.user ≠ "") (address : String) :
    text? identity address userHeader = some identity.user := by
  rw [text?, if_pos rfl, if_neg h]

theorem text?_group_of_ne_nil {identity : Identity} (h : identity.groups ≠ []) (address : String) :
    text? identity address groupHeader = some (",".intercalate identity.groups) := by
  rw [text?, if_neg (by decide), if_pos rfl, if_neg h]

/-- In the other modes all headers stay as they are. -/
theorem headers_apply_of_ne_auth {policy : Policy} (hmode : policy.mode ≠ .auth)
    (table : MappingTable) (address : Ip.Address) (headers : Headers) :
    (apply policy table address headers).headers = headers := by
  cases hother : policy.mode with
  | auth => exact absurd hother hmode
  | noAuth => rw [apply, hother]
  | unrecognized mode => rw [apply, hother]

/-- In every mode the headers that are not about impersonation do. -/
theorem values_apply_of_not_impersonation (policy : Policy) (table : MappingTable)
    (address : Ip.Address) (headers : Headers) {name : HeaderName}
    (hname : isImpersonation name = false) :
    (apply policy table address headers).headers.values name = headers.values name := by
  by_cases hmode : policy.mode = .auth
  · have hwritten : name ∉ written := fun h ↦ by simp [isImpersonation_of_mem_written h] at hname
    rw [apply_auth hmode, Draft.values_setAll_of_notMem hwritten, values_strip, hname]
    rfl
  · rw [headers_apply_of_ne_auth hmode]

/-! ### Failures -/

theorem Draft.failure_set_eq_none_iff (draft : Draft) (name : HeaderName) (text : String) :
    (draft.set name text).failure = none ↔ draft.failure = none ∧ Sendable text := by
  unfold Draft.set Sendable
  cases hdraft : draft.failure with
  | some failure => simp [hdraft]
  | none => cases htext : HeaderValue.ofString? text <;> simp

/-- The only failure that a step adds is that of an unsendable text. -/
theorem Draft.failure_set_of_some {draft : Draft} (hdraft : draft.failure = none)
    {name : HeaderName} {text : String} {failure : Failure}
    (h : (draft.set name text).failure = some failure) : failure = unsendable := by
  unfold Draft.set at h
  rw [hdraft] at h
  cases htext : HeaderValue.ofString? text with
  | some value => simp [htext] at h
  | none =>
    simp only [htext, Option.some.injEq] at h
    exact h.symm

theorem Draft.failure_set_of_failed {draft : Draft} {failure : Failure}
    (hdraft : draft.failure = some failure) (name : HeaderName) (text : String) :
    (draft.set name text).failure = some failure := by
  rw [Draft.set, hdraft]
  exact hdraft

theorem Draft.failure_setText?_eq_none_iff (draft : Draft) (name : HeaderName)
    (text : Option String) :
    (draft.setText? name text).failure = none ↔
      draft.failure = none ∧ ∀ sent, text = some sent → Sendable sent := by
  cases text with
  | none => simp [Draft.setText?]
  | some text => simpa [Draft.setText?] using draft.failure_set_eq_none_iff name text

theorem Draft.failure_setText?_of_some {draft : Draft} (hdraft : draft.failure = none)
    {name : HeaderName} {text : Option String} {failure : Failure}
    (h : (draft.setText? name text).failure = some failure) : failure = unsendable := by
  cases text with
  | none => simp [Draft.setText?, hdraft] at h
  | some text => exact Draft.failure_set_of_some hdraft h

theorem Draft.failure_setText?_of_failed {draft : Draft} {failure : Failure}
    (hdraft : draft.failure = some failure) (name : HeaderName) (text : Option String) :
    (draft.setText? name text).failure = some failure := by
  cases text with
  | none => exact hdraft
  | some text => exact Draft.failure_set_of_failed hdraft name text

/-- A series of steps succeeds if and only if each of its texts can be sent. -/
theorem Draft.failure_setAll_eq_none_iff {texts : HeaderName → Option String}
    {names : List HeaderName} :
    ∀ {draft : Draft}, (draft.setAll texts names).failure = none ↔
      draft.failure = none ∧ ∀ name ∈ names, ∀ text, texts name = some text → Sendable text := by
  induction names with
  | nil => exact fun {draft} ↦ by simp [Draft.setAll]
  | cons name names ih =>
    intro draft
    refine ih.trans ?_
    rw [List.forall_mem_cons, ← and_assoc]
    exact and_congr_left fun _ ↦ draft.failure_setText?_eq_none_iff name (texts name)

theorem Draft.failure_setAll_of_failed {texts : HeaderName → Option String} {failure : Failure}
    {names : List HeaderName} :
    ∀ {draft : Draft}, draft.failure = some failure →
      (draft.setAll texts names).failure = some failure := by
  induction names with
  | nil => exact id
  | cons name names ih => exact fun h ↦ ih (Draft.failure_setText?_of_failed h name (texts name))

theorem Draft.failure_setAll_of_some {texts : HeaderName → Option String} {failure : Failure}
    {names : List HeaderName} :
    ∀ {draft : Draft}, draft.failure = none →
      (draft.setAll texts names).failure = some failure → failure = unsendable := by
  induction names with
  | nil =>
    intro draft hdraft h
    simp [Draft.setAll, hdraft] at h
  | cons name names ih =>
    intro draft hdraft h
    cases hstep : (draft.setText? name (texts name)).failure with
    | none => exact ih hstep h
    | some first =>
      -- once a step has failed, its failure is that of the whole series
      have hfirst : ((draft.setText? name (texts name)).setAll texts names).failure = some first :=
        Draft.failure_setAll_of_failed hstep
      have hsame : first = failure := Option.some.inj (hfirst.symm.trans h)
      rw [← hsame]
      exact Draft.failure_setText?_of_some hdraft hstep

/-- Whether a header can hold the user of an identity, and another one its groups. -/
def SendableIdentity (identity : Identity) : Prop :=
  Sendable identity.user ∧ Sendable (",".intercalate identity.groups)

theorem sendable_texts_iff (identity : Identity) (address : Ip.Address) :
    (∀ name ∈ written, ∀ text, text? identity address.text name = some text → Sendable text) ↔
      SendableIdentity identity := by
  have hextraUser : text? identity address.text extraUserHeader = some address.text := rfl
  have hextraGroup : text? identity address.text extraGroupHeader = some overlayTag := rfl
  have huser : text? identity address.text userHeader =
      if identity.user = "" then none else some identity.user := rfl
  have hgroup : text? identity address.text groupHeader =
      if identity.groups = [] then none else some (",".intercalate identity.groups) := rfl
  have haddress : Sendable address.text := sendable_of_visible address.visible_text
  have htag : Sendable overlayTag := sendable_of_visible (by decide)
  simp only [written, List.forall_mem_cons, List.not_mem_nil, false_imp_iff, implies_true,
    and_true, hextraUser, hextraGroup, huser, hgroup, Option.some.injEq, forall_eq', haddress,
    htag, SendableIdentity]
  -- an empty user and an empty list of groups are sendable, and are not sent
  refine and_congr ?_ ?_
  · by_cases hempty : identity.user = ""
    · simp [hempty, sendable_empty]
    · simp [hempty]
  · by_cases hempty : identity.groups = []
    · simp [hempty, String.intercalate_nil, sendable_empty]
    · simp [hempty]

/-- A caller can be presented unless the mode is none, or in `auth` mode no header can hold the user
or the groups of the identity that its address resolves to. -/
theorem failure_apply_eq_none_iff {policy : Policy} {table : MappingTable} {address : Ip.Address}
    {headers : Headers} :
    (apply policy table address headers).failure = none ↔
      policy.mode = .noAuth ∨
        policy.mode = .auth ∧ SendableIdentity (resolve policy table address.text).identity := by
  cases hmode : policy.mode with
  | auth =>
    rw [apply_auth hmode, Draft.failure_setAll_eq_none_iff, sendable_texts_iff]
    simp
  | noAuth => simp [apply, hmode]
  | unrecognized name => simp [apply, hmode]

theorem failure_apply_of_unrecognized {policy : Policy} {name : String}
    (hmode : policy.mode = .unrecognized name) (table : MappingTable) (address : Ip.Address)
    (headers : Headers) :
    (apply policy table address headers).failure = some (.invalidMode name) := by
  rw [apply, hmode]

theorem failure_apply_of_unsendable {policy : Policy} (hmode : policy.mode = .auth)
    {table : MappingTable} {address : Ip.Address}
    (h : ¬ SendableIdentity (resolve policy table address.text).identity) (headers : Headers) :
    (apply policy table address headers).failure = some unsendable := by
  cases hfailure : (apply policy table address headers).failure with
  | none =>
    rcases failure_apply_eq_none_iff.1 hfailure with hother | ⟨_, hsendable⟩
    · rw [hmode] at hother
      cases hother
    · exact absurd hsendable h
  | some failure =>
    rw [apply_auth hmode] at hfailure
    rw [Draft.failure_setAll_of_some rfl hfailure]

/-! ### Agreement -/

/-- Two drafts that failed alike, or not at all, and have the same values under a name. -/
structure Draft.AgreeUnder (name : HeaderName) (first second : Draft) : Prop where
  failure : first.failure = second.failure
  values : first.headers.values name = second.headers.values name

theorem Draft.AgreeUnder.set {name : HeaderName} {first second : Draft}
    (h : Draft.AgreeUnder name first second) (other : HeaderName) (text : String) :
    Draft.AgreeUnder name (first.set other text) (second.set other text) := by
  unfold Draft.set
  rw [h.failure]
  split
  · exact h
  · split
    · exact ⟨rfl, by rw [Headers.values_insert, Headers.values_insert, h.values]⟩
    · exact ⟨rfl, h.values⟩

theorem Draft.AgreeUnder.setAll {name : HeaderName} {texts : HeaderName → Option String}
    {names : List HeaderName} :
    ∀ {first second : Draft}, Draft.AgreeUnder name first second →
      Draft.AgreeUnder name (first.setAll texts names) (second.setAll texts names) := by
  induction names with
  | nil => exact id
  | cons other names ih =>
    intro first second h
    have hstep : Draft.AgreeUnder name (first.setText? other (texts other))
        (second.setText? other (texts other)) := by
      cases texts other with
      | none => exact h
      | some text => exact h.set other text
    exact ih hstep

/-- Two drafts that failed alike, or not at all, and whose headers agree. -/
structure Draft.Agree (first second : Draft) : Prop where
  failure : first.failure = second.failure
  headers : first.headers.Agree second.headers

theorem Draft.Agree.under {first second : Draft} (h : first.Agree second) (name : HeaderName) :
    Draft.AgreeUnder name first second :=
  ⟨h.failure, h.headers name⟩

theorem Draft.Agree.setAll {texts : HeaderName → Option String} {names : List HeaderName}
    {first second : Draft} (h : first.Agree second) :
    (first.setAll texts names).Agree (second.setAll texts names) where
  failure := (h.under userHeader).setAll.failure
  headers name := (h.under name).setAll.values

/-- What a caller says about impersonation makes no difference. -/
theorem agree_apply {policy : Policy} (hmode : policy.mode = .auth) (table : MappingTable)
    (address : Ip.Address) {first second : Headers} (h : first.AgreeOff isImpersonation second) :
    (apply policy table address first).Agree (apply policy table address second) := by
  have hstart : Draft.Agree ⟨strip first, none⟩ ⟨strip second, none⟩ := ⟨rfl, h.eraseWhere⟩
  rw [apply_auth hmode, apply_auth hmode]
  exact hstart.setAll

end OverlayGateway.Impersonation
