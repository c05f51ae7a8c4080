import Mathlib.Data.List.Forall2
import OverlayGateway.Proofs.Gateway.Decision
import OverlayGateway.Proofs.Gateway.Frame
/-!
Whose `Authorization` the API server reads. A credential that is a text replaces what the caller
sent, so requests that differ in their `Authorization` alone are sent with the same one. A client
certificate is a credential too, but no text: what the caller sent goes along, and requests that
differ in it are told apart. In every case a `Connection` value can have the header dropped.
-/

set_option autoImplicit false
set_option relaxedAutoImplicit false

namespace OverlayGateway.Gateway

open Http

/-- Two collections differ at most in their `Authorization` values. -/
def AlikeButAuthorization (first second : Headers) : Prop :=
  first.AgreeOff (fun name ↦ name = .authorization) second

theorem AlikeButAuthorization.values_eq {first second : Headers}
    (h : AlikeButAuthorization first second) {name : HeaderName} (hname : name ≠ .authorization) :
    first.values name = second.values name :=
  h name (decide_eq_false hname)

theorem AlikeButAuthorization.symm {first second : Headers}
    (h : AlikeButAuthorization first second) : AlikeButAuthorization second first :=
  fun name hname ↦ (h name hname).symm

/-! ### Whether a request is forwarded -/

section Forwarded

variable {gateway : Gateway} {token : String → Except Failure String} {table : MappingTable}
  {request : Request}

theorem asksUpgrade_congr {first second : Headers} (h : AlikeButAuthorization first second) :
    AsksUpgrade first ↔ AsksUpgrade second := by
  rw [← isUpgrade_iff, ← isUpgrade_iff,
    Forwarding.isUpgrade_congr (h.values_eq (by decide)) (h.values_eq (by decide))]

/-- With a credential, no layer looks at the `Authorization` of the caller. -/
theorem Forwards.of_alike {caller : Ip.Address} {other : Headers}
    (hforwards : gateway.Forwards token table caller request)
    (hcredential : gateway.credential ≠ .missing)
    (h : AlikeButAuthorization request.headers other) :
    gateway.Forwards token table caller { request with headers := other } where
  proxied := hforwards.proxied
  method_ne := hforwards.method_ne
  presentable := hforwards.presentable
  attachable := (Credential.attachable_congr hcredential token _ _).1 hforwards.attachable
  body := hforwards.body.imp_left (asksUpgrade_congr h).1

theorem forwards_congr {caller : Ip.Address} {other : Headers}
    (hcredential : gateway.credential ≠ .missing)
    (h : AlikeButAuthorization request.headers other) :
    gateway.Forwards token table caller request ↔
      gateway.Forwards token table caller { request with headers := other } :=
  ⟨fun hone ↦ hone.of_alike hcredential h, fun htwo ↦ htwo.of_alike hcredential h.symm⟩

end Forwarded

/-! ### Values -/

section Values

variable {gateway : Gateway} {token : String → Except Failure String} {reply : Call → Reply}
  {connection : Option String} {table : MappingTable} {peer : Ip.Socket} {request : Request}

theorem values_authorization_of_mem_calls {call : Call}
    (hcall : call ∈ (gateway.exchange token reply connection table peer request).calls) :
    ∃ headers,
      gateway.authenticated token table peer.address.canonical request.headers = .ok headers ∧
        call.headers.values .authorization =
          if HeaderName.authorization ∈ Forwarding.connectionNames request.headers then []
          else headers.values .authorization := by
  obtain ⟨headers, hheaders, hsent⟩ := (became_of_mem_calls hcall).headers
  refine ⟨headers, hheaders, ?_⟩
  rw [hsent]
  exact values_callHeaders_authenticated hheaders (by decide)

theorem not_replaces_authorization
    (hcredential : gateway.credential.writesAuthorization = false) :
    ¬ gateway.Replaces .authorization := by
  rintro (⟨_, himpersonation⟩ | ⟨hwrites, _⟩ | hagent)
  · cases himpersonation
  · rw [hcredential] at hwrites
    cases hwrites
  · exact absurd hagent (by decide)

/-- Authentication leaves the same `Authorization` in two collections if its credential is a text,
or if they had the same before. -/
theorem sameAuthorization_authenticated_iff {caller : Ip.Address} {first second one two : Headers}
    (hone : gateway.authenticated token table caller first = .ok one)
    (htwo : gateway.authenticated token table caller second = .ok two) :
    Credential.SameAuthorization one two ↔
      gateway.credential.writesAuthorization = true ∨
        Credential.SameAuthorization first second := by
  cases hcredential : gateway.credential.writesAuthorization with
  | true =>
    have hsame := Credential.sameAuthorization_attached hcredential token
      (Impersonation.apply gateway.policy table caller first).headers
      (Impersonation.apply gateway.policy table caller second).headers
    rw [(authenticated_eq_ok_iff.1 hone).2, (authenticated_eq_ok_iff.1 htwo).2] at hsame
    exact iff_of_true hsame.related_of_ok (Or.inl rfl)
  | false =>
    have hnot := not_replaces_authorization hcredential
    rw [Credential.SameAuthorization, Credential.SameAuthorization,
      values_authenticated_of_not_replaces hone hnot, values_authenticated_of_not_replaces htwo hnot]
    simp

/-- Two calls have the same `Authorization` for one of three reasons. -/
theorem sameAuthorization_of_mem_calls {other : Headers}
    (hother : AlikeButAuthorization request.headers other) {a b : Call}
    (ha : a ∈ (gateway.exchange token reply connection table peer request).calls)
    (hb : b ∈ (gateway.exchange token reply connection table peer
      { request with headers := other }).calls) :
    Credential.SameAuthorization a.headers b.headers ↔
      HeaderName.authorization ∈ Forwarding.connectionNames request.headers ∨
        gateway.credential.writesAuthorization = true ∨
          Credential.SameAuthorization request.headers other := by
  have hnames : Forwarding.connectionNames request.headers = Forwarding.connectionNames other :=
    Forwarding.connectionNames_congr (hother.values_eq (by decide))
  obtain ⟨left, hleft, hsentLeft⟩ := values_authorization_of_mem_calls ha
  obtain ⟨right, hright, hsentRight⟩ := values_authorization_of_mem_calls hb
  dsimp only at hright hsentRight
  rw [Credential.SameAuthorization, hsentLeft, hsentRight, ← hnames,
    ← sameAuthorization_authenticated_iff hleft hright]
  by_cases hnamed : HeaderName.authorization ∈ Forwarding.connectionNames request.headers
  · simp [hnamed]
  · simp [hnamed, Credential.SameAuthorization]

theorem authorizes_authenticated {caller : Ip.Address} {before after : Headers}
    (h : gateway.authenticated token table caller before = .ok after) :
    gateway.credential.Authorizes token before after := by
  have hattached := (Credential.attached_of_ok (authenticated_eq_ok_iff.1 h).2).authorization
  have hvalues : (Impersonation.apply gateway.policy table caller before).headers.values
      .authorization = before.values .authorization :=
    Impersonation.values_apply_of_not_impersonation _ _ _ _ (by decide)
  unfold Credential.Authorizes at hattached ⊢
  rw [hvalues] at hattached
  exact hattached

end Values

/-- With a credential, requests that differ in their `Authorization` alone bring about calls with
the same `Authorization` if and only if the credential is a text, there is no call, a `Connection`
value names the header, or the requests have the same values. A call has no `Authorization` if it is
named, and otherwise that of the credential, which a client certificate leaves to the caller. -/
theorem authorization_alike_iff (gateway : Gateway) (token : String → Except Failure String)
    (reply : Call → Reply) (connection : Option String) (table : MappingTable) (peer : Ip.Socket)
    (request : Request) :
    let one := gateway.exchange token reply connection table peer request
    let named := HeaderName.authorization ∈ Forwarding.connectionNames request.headers
    (gateway.credential ≠ .missing →
      ∀ other : Headers, AlikeButAuthorization request.headers other →
        let two := gateway.exchange token reply connection table peer
          { request with headers := other }
        List.Forall₂ (fun a b ↦ Credential.SameAuthorization a.headers b.headers)
            one.calls two.calls ↔
          gateway.credential.writesAuthorization = true ∨ one.calls = [] ∨ named ∨
            Credential.SameAuthorization request.headers other) ∧
    ∀ call ∈ one.calls,
      if named then call.headers.values .authorization = []
      else gateway.credential.Authorizes token request.headers call.headers := by
  intro one named
  constructor
  · intro hcredential other hother two
    -- both requests are forwarded, or neither is
    by_cases hforwards : gateway.Forwards token table peer.address.canonical request
    · obtain ⟨a, ha⟩ : ∃ call, one.calls = [call] := calls_of_forwards hforwards _ _
      obtain ⟨b, hb⟩ : ∃ call, two.calls = [call] :=
        calls_of_forwards ((forwards_congr hcredential hother).1 hforwards) _ _
      have hcalls := sameAuthorization_of_mem_calls hother
        (ha ▸ List.mem_singleton_self a : a ∈ one.calls)
        (hb ▸ List.mem_singleton_self b : b ∈ two.calls)
      rw [ha, hb, List.forall₂_cons, hcalls]
      simp [or_left_comm, named]
    · have hnone : one.calls = [] := calls_of_not_forwards hforwards _ _
      have hother : two.calls = [] :=
        calls_of_not_forwards (mt (forwards_congr hcredential hother).2 hforwards) _ _
      rw [hnone, hother]
      simp
  · intro call hcall
    obtain ⟨headers, hheaders, hsent⟩ := values_authorization_of_mem_calls hcall
    split at hsent
    · rename_i hnamed
      rw [if_pos hnamed]
      exact hsent
    · rename_i hnamed
      rw [if_neg hnamed]
      exact (authorizes_authenticated hheaders).of_values_eq hsent

/-- A caller with an `Authorization` and one without are told apart by a gateway with a certificate,
and not by one with a token. -/
theorem authorization_alike_sample :
    let without : Headers := {}
    let own : Headers :=
      without.insert .authorization ⟨Text.utf8 "Bearer caller", by decide, false⟩
    let certified : Gateway := { sample with credential := .clientCertificate [] }
    let calls (gateway : Gateway) (headers : Headers) : List Call :=
      (gateway.exchange (fun _ ↦ .ok "") (fun _ ↦ .switched {}) none .empty samplePeer
        { method := "GET", path := "/api", headers }).calls
    let alike (first second : List Call) : Prop :=
      List.Forall₂ (fun a b ↦ Credential.SameAuthorization a.headers b.headers) first second
    AlikeButAuthorization without own ∧
      sample.credential ≠ .missing ∧ alike (calls sample without) (calls sample own) ∧
      certified.credential ≠ .missing ∧
        ¬ alike (calls certified without) (calls certified own) := by
  intro without own certified calls alike
  have hown : AlikeButAuthorization without own := fun name hname ↦
    (Headers.values_insert_of_ne without _ (of_decide_eq_false hname)).symm
  refine ⟨hown, by decide, ?_, by decide, ?_⟩
  · exact ((authorization_alike_iff sample _ _ _ _ _ _).1 (by decide) own hown).2 (Or.inl rfl)
  · intro halike
    have hreasons :=
      ((authorization_alike_iff certified _ _ _ _ _ _).1 (by decide) own hown).1 halike
    have hcall : (calls certified without).length = 1 := by decide
    rcases hreasons with hwrites | hnone | hnamed | hsame
    · cases hwrites
    · rw [show calls certified without = [] from hnone] at hcall
      cases hcall
    · exact absurd hnamed (by decide)
    · exact absurd (show without.values .authorization = own.values .authorization from hsame)
        (by decide)

end OverlayGateway.Gateway
