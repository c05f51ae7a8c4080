import OverlayGateway.Proofs.Gateway.Answers
import OverlayGateway.Proofs.Result
/-!
Attaching the gateway's own credential is all or nothing. It edits the headers of a request in
place, and a failure comes before the first change: there is a token that no header can hold or that
cannot be read, or there is no credential and no `Authorization` of the caller. Otherwise the agent
is the gateway's own, a credential that is a text becomes the one `Authorization` value, marked as a
secret, and no other header changes. A token is read once for a token file and never otherwise.
-/

set_option autoImplicit false
set_option relaxedAutoImplicit false

namespace OverlayGateway.Gateway

open Http

section Outcomes

variable {credential : Credential} {token : String → Except Failure String}
  {before after : Headers}

theorem not_sendable_iff_hasControl_bearerText {secret : String} :
    ¬ Sendable secret ↔ HasControl (Credential.bearerText secret) := by
  rw [← not_sendable_iff, Credential.sendable_bearerText_iff]

theorem refused_iff {failure : Failure} :
    credential.Refused token before failure ↔
      (∃ secret, credential.Bears token secret ∧ HasControl (Credential.bearerText secret) ∧
        failure = Impersonation.unsendable) ∨
      (∃ path, credential = .bearerTokenFile path ∧ token path = .error failure) ∨
      credential = .missing ∧ before.values .authorization = [] ∧
        failure = Credential.unauthorized := by
  constructor
  · rintro (⟨hmissing, hnone⟩ | ⟨hfile, hread⟩ | ⟨hbears, hsecret⟩)
    · exact Or.inr (Or.inr ⟨hmissing, hnone, rfl⟩)
    · exact Or.inr (Or.inl ⟨_, hfile, hread⟩)
    · exact Or.inl ⟨_, hbears, not_sendable_iff_hasControl_bearerText.1 hsecret, rfl⟩
  · rintro (⟨secret, hbears, hcontrol, rfl⟩ | ⟨path, hfile, hread⟩ | ⟨hmissing, hnone, rfl⟩)
    · exact .unsendable hbears (not_sendable_iff_hasControl_bearerText.2 hcontrol)
    · exact .unread hfile hread
    · exact .missing hmissing hnone

/-- A credential that is a text is sent as one secret value. -/
theorem sensitive_authorized (hwrites : credential.writesAuthorization = true)
    (h : credential.authorized token before = .ok after) :
    ∃ value, after.values .authorization = [value] ∧ value.sensitive = true := by
  cases credential <;> simp only [Credential.authorized] at h
  case bearerToken secret => exact Credential.sensitive_authorize h
  case bearerTokenFile path =>
    split at h
    · exact Credential.sensitive_authorize h
    · cases h
  case clientCertificate pem => cases hwrites
  case basic username password => exact Credential.sensitive_authorize h
  case missing => cases hwrites

theorem sensitive_attached (hwrites : credential.writesAuthorization = true)
    (h : credential.attached token before = .ok after) :
    ∃ value, after.values .authorization = [value] ∧ value.sensitive = true := by
  rw [Credential.attached, map_eq_ok_iff] at h
  obtain ⟨headers, hauthorized, rfl⟩ := h
  have hagent : HeaderName.authorization ≠ .userAgent := by decide
  rw [Headers.values_insert_of_ne _ _ hagent]
  exact sensitive_authorized hwrites hauthorized

end Outcomes

/-- Attaching a credential to headers in place fails if and only if it bears a token, of its own or
from its file, whose `Bearer` text holds a control, or the token of its file cannot be read, or it
is missing and there is no `Authorization`; the headers are then as they were. Otherwise the agent
is the gateway's, `Authorization` is the one secret value of a credential that is a text and
untouched for the others, and all other headers have the values that they had. A name with a
password never fails. The token reader is asked once for a token file, and never otherwise. -/
theorem attaching_all_or_nothing (credential : Credential)
    (token : String → Except Failure String) (before : Headers) :
    let run := ((credential.attaching (readingNoted token)).run.run before).run {}
    let result := run.1.1
    let after := run.1.2
    (∀ failure, result = .error failure ↔
        (∃ secret, credential.Bears token secret ∧ HasControl (Credential.bearerText secret) ∧
          failure = Impersonation.unsendable) ∨
        (∃ path, credential = .bearerTokenFile path ∧ token path = .error failure) ∨
        credential = .missing ∧ before.values .authorization = [] ∧
          failure = Credential.unauthorized) ∧
      (∀ failure, result = .error failure → after = before) ∧
      (result = .ok () →
        after.values .userAgent = [Credential.userAgent] ∧
        credential.Authorizes token before after ∧
        (credential.writesAuthorization = true →
          ∃ value, after.values .authorization = [value] ∧ value.sensitive = true) ∧
        (credential.writesAuthorization = false →
          after.values .authorization = before.values .authorization) ∧
        ∀ name : HeaderName, name ≠ .userAgent → name ≠ .authorization →
          after.values name = before.values name) ∧
      (∀ username password, credential = .basic username password → result = .ok ()) ∧
      run.2 = { tokens := tokenPaths credential } := by
  intro run result after
  have hrun : run = (Credential.settled before (credential.attached token before),
      Asked.reading {} (tokenPaths credential)) :=
    attaching_noted token {} credential before
  have hfailed (failure : Failure) :
      result = .error failure ↔ credential.attached token before = .error failure := by
    simp only [result, hrun]
    cases credential.attached token before <;> simp [Credential.settled]
  have hsucceeded : result = .ok () → credential.attached token before = .ok after := by
    simp only [result, after, hrun]
    cases credential.attached token before <;> simp [Credential.settled]
  refine ⟨fun failure ↦ ?_, fun failure hfailure ↦ ?_, fun hresult ↦ ?_, ?_, ?_⟩
  · rw [hfailed, Credential.attached_eq_error_iff, refused_iff]
  · simp only [after, hrun, (hfailed failure).1 hfailure, Credential.settled]
  · have hattached := hsucceeded hresult
    obtain ⟨hagent, hauthorizes, hothers⟩ := Credential.attached_of_ok hattached
    exact ⟨hagent, hauthorizes, fun hwrites ↦ sensitive_attached hwrites hattached,
      hauthorizes.values_eq, hothers⟩
  · rintro username password rfl
    have hattachable : (Credential.basic username password).Attachable token before := trivial
    obtain ⟨headers, hattached⟩ := Credential.exists_attached_iff.2 hattachable
    simp only [result, hrun, hattached, Credential.settled]
  · rw [hrun]
    rfl

/-- A token file that holds a line feed leaves both values of the caller; one that does not replaces
them. -/
theorem attaching_all_or_nothing_sample :
    let first : HeaderValue := ⟨Text.utf8 "Bearer one", by decide, false⟩
    let second : HeaderValue := ⟨Text.utf8 "Bearer two", by decide, false⟩
    let before := (Headers.empty.append .authorization first).append .authorization second
    let token (path : String) : Except Failure String :=
      .ok (if path = "broken" then "se\ncret" else "secret")
    let run (path : String) :=
      (((Credential.bearerTokenFile path).attaching (readingNoted token)).run.run before).run {}
    (run "broken").1 = (.error Impersonation.unsendable, before) ∧
      (run "broken").2.tokens = ["broken"] ∧ (run "token").1.1 = .ok () ∧
      (run "token").1.2.Carries .authorization ["Bearer secret"] ∧
      ∃ value, (run "token").1.2.values .authorization = [value] ∧ value.sensitive = true := by
  intro first second before token run
  obtain ⟨hfailure, hunchanged, -, -, hasked⟩ :=
    attaching_all_or_nothing (.bearerTokenFile "broken") token before
  obtain ⟨-, -, hattached, -, -⟩ :=
    attaching_all_or_nothing (.bearerTokenFile "token") token before
  have hcontrol : HasControl (Credential.bearerText "se\ncret") := ⟨0x0A, by decide, by decide⟩
  have hfailed : (run "broken").1.1 = .error Impersonation.unsendable :=
    (hfailure _).2 (Or.inl ⟨"se\ncret", Or.inr ⟨"broken", rfl, rfl⟩, hcontrol, rfl⟩)
  have hsucceeded : (run "token").1.1 = .ok () := rfl
  obtain ⟨-, ⟨secret, hsecret, hcarries⟩, hsensitive, -⟩ := hattached hsucceeded
  cases hsecret
  exact ⟨Prod.ext hfailed (hunchanged _ hfailed), congrArg Asked.tokens hasked, hsucceeded,
    hcarries, hsensitive rfl⟩

end OverlayGateway.Gateway
