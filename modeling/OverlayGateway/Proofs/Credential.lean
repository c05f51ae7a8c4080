import OverlayGateway.Credential
import OverlayGateway.Proofs.Failure
import OverlayGateway.Proofs.Impersonation
import OverlayGateway.Proofs.Text.Visible
/-!
What attaching the gateway's own credential leaves under each header name: the agent always, an
`Authorization` of the gateway's own for a token, a token file and a name with a password, the
caller's otherwise, and every other header as it was. Attaching fails for want of any
`Authorization`, for a token that cannot be read and for one that no header can hold.
-/

set_option autoImplicit false
set_option relaxedAutoImplicit false

namespace OverlayGateway.Credential

open Http

/-! ### What a token reader contributes -/

/-- The headers with the `Authorization` of a credential, when the token reader answers with
`token`. -/
def authorized (credential : Credential) (token : String → Except Failure String)
    (headers : Headers) : Except Failure Headers :=
  match credential with
  | .bearerToken secret => authorize (bearerText secret) headers
  | .bearerTokenFile path =>
    match token path with
    | .ok secret => authorize (bearerText secret) headers
    | .error failure => .error failure
  | .clientCertificate _ => .ok headers
  | .basic username password => authorize (basicText username password) headers
  | .missing => if headers.contains .authorization then .ok headers else .error unauthorized

/-- The headers with a credential, when the token reader answers with `token`. -/
def attached (credential : Credential) (token : String → Except Failure String)
    (headers : Headers) : Except Failure Headers :=
  (credential.authorized token headers).map fun headers ↦ headers.insert .userAgent userAgent

/-! ### Editing in place -/

/-- How an edit ends and what it leaves, if it leaves the headers alone when it fails. -/
def settled (before : Headers) : Except Failure Headers → Except Failure Unit × Headers
  | .ok after => (.ok (), after)
  | .error failure => (.error failure, before)

theorem map_settled (before : Headers) (result : Except Failure Headers) :
    (settled before result).1.map (fun _ ↦ (settled before result).2) = result := by
  cases result <;> rfl

section Edits

variable {m : Type → Type} [Monad m] [LawfulMonad m] (tokens : TokenReader m) (before : Headers)

/-- A step on the headers that cannot fail. -/
theorem run_step {β : Type} (step : StateT Headers m β) :
    (ExceptT.run (liftM step : Edit m β)).run before =
      (fun finish ↦ (.ok finish.1, finish.2)) <$> step.run before :=
  StateT.run_map _ _ _

theorem run_get : (ExceptT.run (get : Edit m Headers)).run before = pure (.ok before, before) := by
  refine (run_step before get).trans ?_
  rw [StateT.run_get, map_pure]

theorem run_set (after : Headers) :
    (ExceptT.run (set after : Edit m Unit)).run before = pure (.ok (), after) := by
  refine (run_step before (set after)).trans ?_
  rw [StateT.run_set, map_pure]

theorem run_modify (edit : Headers → Headers) :
    (ExceptT.run (modify edit : Edit m Unit)).run before = pure (.ok (), edit before) := by
  refine (run_step before (modify edit)).trans ?_
  rw [StateT.run_modify, map_pure]

theorem run_ask (path : String) :
    (ExceptT.run (liftM (tokens path) : Edit m (Except Failure String))).run before =
      (fun answer ↦ (.ok answer, before)) <$> tokens path := by
  simp [liftM, monadLift, MonadLift.monadLift]

/-- An edit that is all or nothing stays so with a change behind it that cannot fail. -/
theorem run_bind_modify {edit : Edit m Unit} {result : Except Failure Headers}
    (h : edit.run.run before = pure (settled before result)) (change : Headers → Headers) :
    (ExceptT.run (edit >>= fun _ ↦ modify change)).run before =
      pure (settled before (result.map change)) := by
  rw [ExceptT.run_bind, StateT.run_bind, h, pure_bind]
  cases result with
  | ok after => exact run_modify after change
  | error failure => rfl

theorem run_authorizing (text : String) :
    (authorizing (m := m) text).run.run before = pure (settled before (authorize text before)) := by
  rw [authorizing, ExceptT.run_bind, StateT.run_bind, run_get, pure_bind]
  cases h : authorize text before with
  | ok after => simp [h, run_set, settled]
  | error failure => simp [h, settled]

/-- For a token file the token reader is asked once. -/
theorem run_attaching_bearerTokenFile (path : String) :
    ((bearerTokenFile path).attaching tokens).run.run before =
      (fun answer ↦ settled before ((bearerTokenFile path).attached (fun _ ↦ answer) before)) <$>
        tokens path := by
  rw [attaching, ExceptT.run_bind, StateT.run_bind, run_ask, bind_map_left, map_eq_pure_bind]
  refine bind_congr fun answer ↦ ?_
  cases answer with
  | ok token => exact run_bind_modify before (run_authorizing before _) _
  | error failure => simp [settled, attached, authorized, Except.map]

/-- For other credentials it is not asked. -/
theorem run_attaching_of_ne {credential : Credential}
    (hcredential : ∀ path, credential ≠ .bearerTokenFile path)
    (token : String → Except Failure String) :
    (credential.attaching tokens).run.run before =
      pure (settled before (credential.attached token before)) := by
  cases credential with
  | bearerTokenFile path => exact absurd rfl (hcredential path)
  | bearerToken secret => exact run_bind_modify before (run_authorizing before _) _
  | clientCertificate pem => exact run_modify before _
  | basic username password => exact run_bind_modify before (run_authorizing before _) _
  | missing =>
    rw [attaching, ExceptT.run_bind, StateT.run_bind, run_get, pure_bind]
    cases hcontains : before.contains .authorization with
    | true => simp [hcontains, attached, authorized, settled, run_modify, Except.map]
    | false => simp [hcontains, attached, authorized, settled, Except.map]

/-- The outcome is read off the end of the edit. -/
theorem attach_eq (credential : Credential) :
    credential.attach tokens before =
      (fun finish ↦ finish.1.map fun _ ↦ finish.2) <$>
        (credential.attaching tokens).run.run before := by
  rw [attach, map_eq_pure_bind]

/-- In every monad, the outcome depends on the answers of the token reader and nothing else. -/
theorem attach_pure (credential : Credential) (token : String → Except Failure String)
    (headers : Headers) :
    credential.attach (fun path ↦ (pure (token path) : m _)) headers =
      pure (credential.attached token headers) := by
  have hrun : (credential.attaching (fun path ↦ (pure (token path) : m _))).run.run headers =
      pure (settled headers (credential.attached token headers)) := by
    by_cases hfile : ∃ path, credential = .bearerTokenFile path
    · obtain ⟨path, rfl⟩ := hfile
      rw [run_attaching_bearerTokenFile, map_pure]
      rfl
    · exact run_attaching_of_ne _ headers (not_exists.1 hfile) token
  rw [attach_eq, hrun, map_pure, map_settled]

end Edits

/-! ### Values after attaching -/

theorem values_authorize_of_ne {text : String} {before after : Headers}
    (h : authorize text before = .ok after) {name : HeaderName} (hname : name ≠ .authorization) :
    after.values name = before.values name := by
  unfold authorize at h
  split at h
  · cases h
    exact Headers.values_insert_of_ne _ _ hname
  · cases h

theorem carries_authorize {text : String} {before after : Headers}
    (h : authorize text before = .ok after) : after.Carries .authorization [text] := by
  unfold authorize at h
  split at h
  · rename_i value hvalue
    cases h
    have hbytes : value.bytes = Text.utf8 text := HeaderValue.bytes_of_ofString? hvalue
    exact Headers.carries_insert before .authorization hbytes
  · cases h

/-- The one value is marked as a secret. -/
theorem sensitive_authorize {text : String} {before after : Headers}
    (h : authorize text before = .ok after) :
    ∃ value, after.values .authorization = [value] ∧ value.sensitive = true := by
  unfold authorize at h
  split at h
  · rename_i value hvalue
    cases h
    exact ⟨value.secret, Headers.values_insert_self _ _ _, rfl⟩
  · cases h

/-- The `Authorization` values that a credential leaves, given those that it found. -/
def Authorizes (credential : Credential) (token : String → Except Failure String)
    (before after : Headers) : Prop :=
  match credential with
  | .bearerToken secret => after.Carries .authorization [bearerText secret]
  | .bearerTokenFile path =>
    ∃ secret, token path = .ok secret ∧ after.Carries .authorization [bearerText secret]
  | .clientCertificate _ => after.values .authorization = before.values .authorization
  | .basic username password => after.Carries .authorization [basicText username password]
  | .missing =>
    before.values .authorization ≠ [] ∧
      after.values .authorization = before.values .authorization

theorem Authorizes.of_values_eq {credential : Credential} {token : String → Except Failure String}
    {before after later : Headers} (h : credential.Authorizes token before after)
    (hvalues : later.values .authorization = after.values .authorization) :
    credential.Authorizes token before later := by
  unfold Authorizes Headers.Carries at h ⊢
  rw [hvalues]
  exact h

/-- Whether a credential is the text of an `Authorization` header. -/
def writesAuthorization : Credential → Bool
  | .bearerToken _ | .bearerTokenFile _ | .basic _ _ => true
  | .clientCertificate _ | .missing => false

/-- A credential that is no text leaves the header to the caller. -/
theorem Authorizes.values_eq {credential : Credential} {token : String → Except Failure String}
    {before after : Headers} (h : credential.Authorizes token before after)
    (hcredential : credential.writesAuthorization = false) :
    after.values .authorization = before.values .authorization := by
  cases credential with
  | clientCertificate pem => exact h
  | missing => exact h.2
  | bearerToken secret => cases hcredential
  | bearerTokenFile path => cases hcredential
  | basic username password => cases hcredential

theorem authorizes_of_authorized {credential : Credential}
    {token : String → Except Failure String} {before after : Headers}
    (h : credential.authorized token before = .ok after) :
    credential.Authorizes token before after := by
  cases credential <;> simp only [authorized] at h
  case bearerToken secret => exact carries_authorize h
  case bearerTokenFile path =>
    cases hread : token path with
    | ok secret =>
      rw [hread] at h
      exact ⟨secret, hread, carries_authorize h⟩
    | error failure =>
      rw [hread] at h
      cases h
  case clientCertificate pem =>
    cases h
    rfl
  case basic username password => exact carries_authorize h
  case missing =>
    split at h
    · rename_i hcontains
      cases h
      exact ⟨(Headers.contains_iff _ _).1 hcontains, rfl⟩
    · cases h

theorem values_authorized_of_ne {credential : Credential}
    {token : String → Except Failure String} {before after : Headers}
    (h : credential.authorized token before = .ok after) {name : HeaderName}
    (hname : name ≠ .authorization) : after.values name = before.values name := by
  cases credential <;> simp only [authorized] at h
  case bearerToken secret => exact values_authorize_of_ne h hname
  case bearerTokenFile path =>
    split at h
    · exact values_authorize_of_ne h hname
    · cases h
  case clientCertificate pem =>
    cases h
    rfl
  case basic username password => exact values_authorize_of_ne h hname
  case missing =>
    split at h
    · cases h
      rfl
    · cases h

/-- Headers to which a credential has been attached. -/
structure Attached (credential : Credential) (token : String → Except Failure String)
    (before after : Headers) : Prop where
  agent : after.values .userAgent = [userAgent]
  authorization : credential.Authorizes token before after
  others : ∀ name : HeaderName, name ≠ .userAgent → name ≠ .authorization →
    after.values name = before.values name

theorem attached_of_ok {credential : Credential} {token : String → Except Failure String}
    {before after : Headers} (h : credential.attached token before = .ok after) :
    credential.Attached token before after := by
  unfold attached at h
  cases hauthorized : credential.authorized token before with
  | error failure =>
    rw [hauthorized] at h
    cases h
  | ok headers =>
    rw [hauthorized] at h
    cases h
    -- the agent is written last, under a name of its own
    exact {
      agent := Headers.values_insert_self _ _ _
      authorization := (authorizes_of_authorized hauthorized).of_values_eq
        (Headers.values_insert_of_ne _ _ (by decide))
      others := fun name hagent hauthorization ↦
        (Headers.values_insert_of_ne _ _ hagent).trans
          (values_authorized_of_ne hauthorized hauthorization) }

/-! ### Failures -/

theorem sendable_bearerText_iff {token : String} :
    Sendable (bearerText token) ↔ Sendable token := by
  have hscheme : Sendable "Bearer " := sendable_of_visible (by decide)
  rw [sendable_iff] at hscheme
  simp only [bearerText, sendable_iff, String.toList_append, List.forall_mem_append]
  exact and_iff_right hscheme

/-- A name and a password can always be sent, whatever their characters. -/
theorem sendable_basicText (username password : String) :
    Sendable (basicText username password) := by
  have hscheme : Sendable "Basic " := sendable_of_visible (by decide)
  have hencoded := sendable_of_visible (Base64.visible_encode
    (Text.utf8 (username ++ ":" ++ password)))
  rw [sendable_iff] at hscheme hencoded
  simp only [basicText, sendable_iff, String.toList_append, List.forall_mem_append]
  exact ⟨hscheme, hencoded⟩

theorem authorize_eq_error_iff {text : String} {headers : Headers} {failure : Failure} :
    authorize text headers = .error failure ↔
      ¬ Sendable text ∧ failure = Impersonation.unsendable := by
  rw [← ofString?_eq_none_iff]
  unfold authorize
  cases htext : HeaderValue.ofString? text <;> simp [eq_comm]

/-- Whether a credential has a token, which may come from the token reader. -/
def Bears (credential : Credential) (token : String → Except Failure String) (secret : String) :
    Prop :=
  credential = .bearerToken secret ∨
    ∃ path, credential = .bearerTokenFile path ∧ token path = .ok secret

/-- Why a credential cannot be attached to headers. -/
inductive Refused (credential : Credential) (token : String → Except Failure String)
    (headers : Headers) : Failure → Prop
  | missing (hmissing : credential = .missing) (hnone : headers.values .authorization = []) :
      Refused credential token headers unauthorized
  | unread {path : String} {failure : Failure} (hfile : credential = .bearerTokenFile path)
      (hread : token path = .error failure) : Refused credential token headers failure
  | unsendable {secret : String} (hbears : credential.Bears token secret)
      (hsecret : ¬ Sendable secret) : Refused credential token headers Impersonation.unsendable

theorem authorized_eq_error_iff {credential : Credential}
    {token : String → Except Failure String} {headers : Headers} {failure : Failure} :
    credential.authorized token headers = .error failure ↔
      credential.Refused token headers failure := by
  constructor
  · intro h
    cases hcredential : credential <;> simp only [hcredential, authorized] at h
    case bearerToken secret =>
      obtain ⟨hsecret, rfl⟩ := authorize_eq_error_iff.1 h
      exact .unsendable (Or.inl rfl) (mt sendable_bearerText_iff.2 hsecret)
    case bearerTokenFile path =>
      cases hread : token path with
      | error cause =>
        rw [hread] at h
        cases h
        exact .unread rfl hread
      | ok secret =>
        rw [hread] at h
        obtain ⟨hsecret, rfl⟩ := authorize_eq_error_iff.1 h
        exact .unsendable (Or.inr ⟨path, rfl, hread⟩) (mt sendable_bearerText_iff.2 hsecret)
    case clientCertificate pem => cases h
    case basic username password =>
      exact absurd (sendable_basicText username password) (authorize_eq_error_iff.1 h).1
    case missing =>
      split at h
      · cases h
      · rename_i hnone
        cases h
        exact .missing rfl (by simpa [Headers.contains_iff] using hnone)
  · rintro (⟨rfl, hnone⟩ | ⟨rfl, hread⟩ | ⟨rfl | ⟨path, rfl, hread⟩, hsecret⟩)
    · have hcontains : headers.contains .authorization = false := by
        rw [← Bool.not_eq_true, Headers.contains_iff]
        exact not_not_intro hnone
      rw [authorized, hcontains]
      rfl
    · rw [authorized, hread]
    · exact authorize_eq_error_iff.2 ⟨mt sendable_bearerText_iff.1 hsecret, rfl⟩
    · rw [authorized, hread]
      exact authorize_eq_error_iff.2 ⟨mt sendable_bearerText_iff.1 hsecret, rfl⟩

/-- A credential that is not refused is attached. -/
theorem attached_eq_error_iff {credential : Credential}
    {token : String → Except Failure String} {headers : Headers} {failure : Failure} :
    credential.attached token headers = .error failure ↔
      credential.Refused token headers failure := by
  rw [← authorized_eq_error_iff, attached]
  cases credential.authorized token headers <;> simp [Except.map]

/-- What attaching a credential needs: a token that can be read and sent, if it is one of tokens,
and an `Authorization` of the caller, if there is no credential. -/
def Attachable (credential : Credential) (token : String → Except Failure String)
    (headers : Headers) : Prop :=
  match credential with
  | .bearerToken secret => Sendable secret
  | .bearerTokenFile path => ∃ secret, token path = .ok secret ∧ Sendable secret
  | .clientCertificate _ | .basic _ _ => True
  | .missing => headers.values .authorization ≠ []

theorem attachable_iff {credential : Credential} {token : String → Except Failure String}
    {headers : Headers} :
    credential.Attachable token headers ↔
      ∀ failure, ¬ credential.Refused token headers failure := by
  constructor
  · rintro h failure (⟨rfl, hnone⟩ | ⟨rfl, hread⟩ | ⟨rfl | ⟨path, rfl, hread⟩, hsecret⟩)
    · exact h hnone
    · obtain ⟨secret, hsecret, _⟩ := h
      rw [hread] at hsecret
      cases hsecret
    · exact hsecret h
    · obtain ⟨other, hother, hsendable⟩ := h
      rw [hread] at hother
      cases hother
      exact hsecret hsendable
  · intro h
    cases credential with
    | bearerToken secret =>
      exact Classical.byContradiction fun hsecret ↦ h _ (.unsendable (Or.inl rfl) hsecret)
    | bearerTokenFile path =>
      cases hread : token path with
      | error failure => exact absurd (.unread rfl hread) (h failure)
      | ok secret =>
        have hbears : (bearerTokenFile path).Bears token secret := Or.inr ⟨path, rfl, hread⟩
        exact ⟨secret, hread,
          Classical.byContradiction fun hsecret ↦ h _ (.unsendable hbears hsecret)⟩
    | clientCertificate pem => trivial
    | basic username password => trivial
    | missing => exact fun hnone ↦ h _ (.missing rfl hnone)

/-- What the caller sent counts only if there is no credential. -/
theorem attachable_congr {credential : Credential} (h : credential ≠ .missing)
    (token : String → Except Failure String) (first second : Headers) :
    credential.Attachable token first ↔ credential.Attachable token second := by
  cases credential with
  | missing => exact absurd rfl h
  | _ => exact Iff.rfl

theorem exists_attached_iff {credential : Credential} {token : String → Except Failure String}
    {headers : Headers} :
    (∃ after, credential.attached token headers = .ok after) ↔
      credential.Attachable token headers := by
  simp only [attachable_iff, ← attached_eq_error_iff]
  cases credential.attached token headers <;> simp

/-! ### Agreement -/

theorem agree_authorize {first second : Headers} (h : first.Agree second) (text : String) :
    SameResult Headers.Agree (authorize text first) (authorize text second) := by
  unfold authorize
  split
  · exact .ok (h.insert _ _)
  · exact .error _

theorem agree_authorized {first second : Headers} (h : first.Agree second)
    (credential : Credential) (token : String → Except Failure String) :
    SameResult Headers.Agree (credential.authorized token first)
      (credential.authorized token second) := by
  cases credential <;> simp only [authorized]
  case bearerToken secret => exact agree_authorize h _
  case bearerTokenFile path =>
    split
    · exact agree_authorize h _
    · exact .error _
  case clientCertificate pem => exact .ok h
  case basic username password => exact agree_authorize h _
  case missing =>
    rw [h.contains_eq]
    split
    · exact .ok h
    · exact .error _

theorem agree_attached {first second : Headers} (h : first.Agree second)
    (credential : Credential) (token : String → Except Failure String) :
    SameResult Headers.Agree (credential.attached token first)
      (credential.attached token second) :=
  (agree_authorized h credential token).map fun _ _ hheaders ↦ hheaders.insert _ _

/-! ### The same `Authorization` -/

/-- Two collections have the same `Authorization` values. -/
def SameAuthorization (first second : Headers) : Prop :=
  first.values .authorization = second.values .authorization

theorem sameAuthorization_authorize (text : String) (first second : Headers) :
    SameResult SameAuthorization (authorize text first) (authorize text second) := by
  unfold authorize
  split
  · refine .ok ?_
    rw [SameAuthorization, Headers.values_insert_self, Headers.values_insert_self]
  · exact .error _

/-- A credential that is a text leaves the same `Authorization`, whatever it finds. -/
theorem sameAuthorization_attached {credential : Credential}
    (hcredential : credential.writesAuthorization = true) (token : String → Except Failure String)
    (first second : Headers) :
    SameResult SameAuthorization (credential.attached token first)
      (credential.attached token second) := by
  have hauthorized : SameResult SameAuthorization (credential.authorized token first)
      (credential.authorized token second) := by
    cases credential <;> simp only [authorized]
    case bearerToken secret => exact sameAuthorization_authorize _ _ _
    case bearerTokenFile path =>
      split
      · exact sameAuthorization_authorize _ _ _
      · exact .error _
    case clientCertificate pem => cases hcredential
    case basic username password => exact sameAuthorization_authorize _ _ _
    case missing => cases hcredential
  have hagent : HeaderName.authorization ≠ .userAgent := by decide
  refine hauthorized.map fun one two hsame ↦ ?_
  rw [SameAuthorization, Headers.values_insert_of_ne _ _ hagent,
    Headers.values_insert_of_ne _ _ hagent]
  exact hsame

end OverlayGateway.Credential
