import OverlayGateway.Proofs.Gateway.Exchange
/-!
Whether the API server sees whom the gateway speaks for. In `auth` mode authentication leaves the
identity of the caller, the credential and the agent in the headers of a request. Forwarding then
drops every header that a `Connection` value of the caller names, those of authentication included,
so the presentation arrives as a whole unless the caller names a part of it.
-/

set_option autoImplicit false
set_option relaxedAutoImplicit false

namespace OverlayGateway.Gateway

open Http

/-- Whether headers show a credential: its own `Authorization`, or some `Authorization` if there is
no credential. A client certificate shows on the connection alone. -/
def ShowsCredential (credential : Credential) (token : String → Except Failure String)
    (headers : Headers) : Prop :=
  match credential with
  | .bearerToken secret => headers.Carries .authorization [Credential.bearerText secret]
  | .bearerTokenFile path =>
    ∃ secret, token path = .ok secret ∧
      headers.Carries .authorization [Credential.bearerText secret]
  | .clientCertificate _ => True
  | .basic username password =>
    headers.Carries .authorization [Credential.basicText username password]
  | .missing => headers.values .authorization ≠ []

/-- Whether headers present a caller with an identity and an address, and show a credential. -/
structure PresentsCaller (identity : Identity) (address : String) (credential : Credential)
    (token : String → Except Failure String) (headers : Headers) : Prop where
  user : headers.Carries Impersonation.userHeader
    (if identity.user = "" then [] else [identity.user])
  group : headers.Carries Impersonation.groupHeader
    (if identity.groups = [] then [] else [",".intercalate identity.groups])
  extraUser : headers.Carries Impersonation.extraUserHeader [address]
  extraGroup : headers.Carries Impersonation.extraGroupHeader [Impersonation.overlayTag]
  credential : ShowsCredential credential token headers
  agent : headers.values .userAgent = [Credential.userAgent]

/-- The names of the headers that a presentation needs. -/
def presentedNames (identity : Identity) (address : String) (credential : Credential) :
    List HeaderName :=
  (Impersonation.written.filter fun name ↦
      (Impersonation.text? identity address name).isSome) ++
    (match credential with
      | .clientCertificate _ => []
      | _ => [.authorization]) ++
    [.userAgent]

section Presentation

variable {identity : Identity} {address : String} {credential : Credential}
  {token : String → Except Failure String} {headers : Headers}

/-- A presentation, header by header. -/
theorem presentsCaller_iff :
    PresentsCaller identity address credential token headers ↔
      (∀ name ∈ Impersonation.written,
        headers.Carries name (Impersonation.text? identity address name).toList) ∧
      ShowsCredential credential token headers ∧
      headers.values .userAgent = [Credential.userAgent] := by
  have huser : (Impersonation.text? identity address Impersonation.userHeader).toList =
      if identity.user = "" then [] else [identity.user] := by
    simp only [Impersonation.text?, if_true]
    split <;> rfl
  have hgroup : (Impersonation.text? identity address Impersonation.groupHeader).toList =
      if identity.groups = [] then [] else [",".intercalate identity.groups] := by
    have hne : Impersonation.groupHeader ≠ Impersonation.userHeader := by decide
    simp only [Impersonation.text?, if_true, if_neg hne]
    split <;> rfl
  have hextraUser : (Impersonation.text? identity address Impersonation.extraUserHeader).toList =
      [address] := rfl
  have hextraGroup :
      (Impersonation.text? identity address Impersonation.extraGroupHeader).toList =
        [Impersonation.overlayTag] := rfl
  simp only [Impersonation.written, List.forall_mem_cons, List.not_mem_nil, false_imp_iff,
    implies_true, and_true, huser, hgroup, hextraUser, hextraGroup]
  constructor
  · intro h
    exact ⟨⟨h.user, h.group, h.extraUser, h.extraGroup⟩, h.credential, h.agent⟩
  · rintro ⟨⟨huser, hgroup, hextraUser, hextraGroup⟩, hcredential, hagent⟩
    exact ⟨huser, hgroup, hextraUser, hextraGroup, hcredential, hagent⟩

theorem mem_presentedNames {name : HeaderName} :
    name ∈ presentedNames identity address credential ↔
      (name ∈ Impersonation.written ∧
          (Impersonation.text? identity address name).isSome = true) ∨
        (name = .authorization ∧ ∀ pem, credential ≠ .clientCertificate pem) ∨
        name = .userAgent := by
  cases credential <;> simp [presentedNames]

theorem notMem_rewritten_of_mem_presentedNames {name : HeaderName}
    (h : name ∈ presentedNames identity address credential) : name ∉ Forwarding.rewritten := by
  rcases mem_presentedNames.1 h with ⟨hwritten, _⟩ | ⟨rfl, _⟩ | rfl
  · exact notMem_rewritten_of_isImpersonation
      (Impersonation.isImpersonation_of_mem_written hwritten)
  · decide
  · decide

theorem ShowsCredential.values_ne_nil (h : ShowsCredential credential token headers)
    (hcredential : ∀ pem, credential ≠ .clientCertificate pem) :
    headers.values .authorization ≠ [] := by
  intro hnil
  cases credential <;> simp only [ShowsCredential] at h
  case bearerToken secret => exact Headers.not_carries_singleton hnil h
  case bearerTokenFile path =>
    obtain ⟨secret, _, hcarries⟩ := h
    exact Headers.not_carries_singleton hnil hcarries
  case clientCertificate pem => exact hcredential pem rfl
  case basic username password => exact Headers.not_carries_singleton hnil h
  case missing => exact h hnil

theorem ShowsCredential.of_values_eq {later : Headers}
    (h : ShowsCredential credential token headers)
    (hvalues : later.values .authorization = headers.values .authorization) :
    ShowsCredential credential token later := by
  unfold ShowsCredential Headers.Carries at h ⊢
  rw [hvalues]
  exact h

theorem showsCredential_of_authorizes {before : Headers}
    (h : credential.Authorizes token before headers) :
    ShowsCredential credential token headers := by
  cases credential <;> simp only [Credential.Authorizes] at h <;> simp only [ShowsCredential]
  case bearerToken secret => exact h
  case bearerTokenFile path => exact h
  case basic username password => exact h
  case missing =>
    rw [h.2]
    exact h.1

/-- Every header that a presentation needs has a value. -/
theorem PresentsCaller.values_ne_nil (h : PresentsCaller identity address credential token headers)
    {name : HeaderName} (hname : name ∈ presentedNames identity address credential) :
    headers.values name ≠ [] := by
  obtain ⟨hcarries, hcredential, hagent⟩ := presentsCaller_iff.1 h
  rcases mem_presentedNames.1 hname with ⟨hwritten, htext⟩ | ⟨rfl, hkind⟩ | rfl
  · intro hnil
    obtain ⟨text, htext⟩ := Option.isSome_iff_exists.1 htext
    have hsingle := hcarries name hwritten
    rw [htext] at hsingle
    exact Headers.not_carries_singleton hnil hsingle
  · exact hcredential.values_ne_nil hkind
  · rw [hagent]
    exact List.cons_ne_nil _ _

/-- Dropping names keeps a presentation as long as it needs none of them. -/
theorem presentsCaller_iff_of_dropped {later : Headers} {dropped : List HeaderName}
    (h : PresentsCaller identity address credential token headers)
    (hvalues : ∀ name, name ∉ Forwarding.rewritten →
      later.values name = if name ∈ dropped then [] else headers.values name) :
    PresentsCaller identity address credential token later ↔
      ∀ name ∈ presentedNames identity address credential, name ∉ dropped := by
  constructor
  · intro hlater name hname hdropped
    have hnil : later.values name = [] := by
      rw [hvalues name (notMem_rewritten_of_mem_presentedNames hname), if_pos hdropped]
    exact hlater.values_ne_nil hname hnil
  · intro hkept
    have hsame (name : HeaderName) (hname : name ∈ presentedNames identity address credential) :
        later.values name = headers.values name := by
      rw [hvalues name (notMem_rewritten_of_mem_presentedNames hname), if_neg (hkept name hname)]
    obtain ⟨hcarries, hcredential, hagent⟩ := presentsCaller_iff.1 h
    refine presentsCaller_iff.2 ⟨?_, ?_, ?_⟩
    · intro name hwritten
      cases htext : Impersonation.text? identity address name with
      | some text =>
        have hname : name ∈ presentedNames identity address credential :=
          mem_presentedNames.2 (Or.inl ⟨hwritten, Option.isSome_of_eq_some htext⟩)
        rw [← htext]
        exact (hcarries name hwritten).of_values_eq (hsame name hname)
      | none =>
        -- a name without a text has no values to lose
        have hnil : headers.values name = [] := by
          have hnone := hcarries name hwritten
          rw [htext] at hnone
          exact (Headers.carries_nil_iff headers name).1 hnone
        rw [Option.toList_none, Headers.carries_nil_iff,
          hvalues name (notMem_rewritten_of_isImpersonation
            (Impersonation.isImpersonation_of_mem_written hwritten)), hnil, ite_self]
    · by_cases hkind : ∃ pem, credential = .clientCertificate pem
      · obtain ⟨pem, rfl⟩ := hkind
        exact trivial
      · have hname : HeaderName.authorization ∈ presentedNames identity address credential :=
          mem_presentedNames.2 (Or.inr (Or.inl ⟨rfl, not_exists.1 hkind⟩))
        exact hcredential.of_values_eq (hsame _ hname)
    · rw [hsame _ (mem_presentedNames.2 (Or.inr (Or.inr rfl))), hagent]

/-- In `auth` mode authentication leaves a whole presentation behind. -/
theorem presentsCaller_authenticated {gateway : Gateway} {table : MappingTable}
    {caller : Ip.Address} {before : Headers} (hmode : gateway.policy.mode = .auth)
    (h : gateway.authenticated token table caller before = .ok headers) :
    PresentsCaller (Impersonation.resolve gateway.policy table caller.text).identity caller.text
      gateway.credential token headers := by
  have hattached := Credential.attached_of_ok (authenticated_eq_ok_iff.1 h).2
  refine presentsCaller_iff.2 ⟨?_, ?_, hattached.agent⟩
  · intro name hwritten
    exact carries_authenticated hmode h (Impersonation.isImpersonation_of_mem_written hwritten)
  · exact showsCredential_of_authorizes hattached.authorization

end Presentation

/-- In `auth` mode a call presents the caller and shows the credential if and only if no readable
`Connection` value of the request names a header that does so. -/
theorem presentsCaller_iff_not_named {gateway : Gateway} {token : String → Except Failure String}
    {reply : Call → Reply} {connection : Option String} {table : MappingTable} {peer : Ip.Socket}
    {request : Request} {call : Call} (hmode : gateway.policy.mode = .auth)
    (hcall : call ∈ (gateway.exchange token reply connection table peer request).calls) :
    let caller := peer.address.canonical.text
    let identity := (Impersonation.resolve gateway.policy table caller).identity
    PresentsCaller identity caller gateway.credential token call.headers ↔
      ∀ name ∈ presentedNames identity caller gateway.credential,
        name ∉ Forwarding.connectionNames request.headers := by
  obtain ⟨headers, hheaders, hsent⟩ := (became_of_mem_calls hcall).headers
  refine presentsCaller_iff_of_dropped (presentsCaller_authenticated hmode hheaders) ?_
  intro name hname
  rw [hsent, values_callHeaders _ _ hname, connectionNames_authenticated hheaders]

/-- A peer without a mapping is presented as a peer, unless it names the header with its user. -/
theorem presentsCaller_sample :
    (∃ call ∈ sampleCalls { method := "GET", path := "/api" },
      PresentsCaller .overlayPeer "10.0.0.1" (.bearerToken "token") (fun _ ↦ .ok "")
        call.headers) ∧
    ∃ call ∈ sampleCalls
        { method := "GET"
          path := "/api"
          headers := Headers.empty.insert .connection
            ⟨Text.utf8 "Impersonate-User", by decide, false⟩ },
      ¬ PresentsCaller .overlayPeer "10.0.0.1" (.bearerToken "token") (fun _ ↦ .ok "")
        call.headers := by
  constructor
  · refine (List.exists_mem_of_length_pos (by decide)).imp fun call hcall ↦ ⟨hcall, ?_⟩
    exact (presentsCaller_iff_not_named rfl hcall).2 (by decide)
  · refine (List.exists_mem_of_length_pos (by decide)).imp fun call hcall ↦ ⟨hcall, ?_⟩
    intro hpresents
    exact (presentsCaller_iff_not_named rfl hcall).1 hpresents Impersonation.userHeader (by decide)
      (by decide)

end OverlayGateway.Gateway
