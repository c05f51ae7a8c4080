import OverlayGateway.Proofs.Gateway.Exchange
/-!
What a call leaves of the headers of its request, and what it adds. The gateway has values of its
own for few names, and forwarding rewrites a few others; a header under any other name arrives with
the values that the caller gave it, or is dropped because a `Connection` value names it. Nothing
else is added, and of the headers that describe a connection only an upgrade has any: the two that
ask for it.
-/

set_option autoImplicit false
set_option relaxedAutoImplicit false

namespace OverlayGateway.Gateway

open Http

/-- Whether the gateway has values of its own for a name: in `auth` mode for all that is about
impersonation, for `Authorization` if its credential is a text, and for the agent. -/
def Replaces (gateway : Gateway) (name : HeaderName) : Prop :=
  (gateway.policy.mode = .auth ∧ Impersonation.isImpersonation name = true) ∨
    (gateway.credential.writesAuthorization = true ∧ name = .authorization) ∨
      name = .userAgent

/-- The names under which a call may have values that are not the caller's. -/
def addedNames (gateway : Gateway) (via : Via) : List HeaderName :=
  (if gateway.policy.mode = .auth then Impersonation.written else []) ++
    (if gateway.credential.writesAuthorization then [.authorization] else []) ++
    [.userAgent, .xForwardedFor] ++
    match via with
    | .send => []
    | .upgrade => [.connection, .upgrade]

/-- What a call has to do with its request, header by header. -/
structure Framed (gateway : Gateway) (request : Request) (call : Call) : Prop where
  method : call.method = request.method
  /-- Headers that nobody replaces, rewrites or names arrive as they were sent. -/
  kept : ∀ name : HeaderName, ¬ gateway.Replaces name → name ∉ Forwarding.rewritten →
    name ∉ Forwarding.connectionNames request.headers →
      call.headers.values name = request.headers.values name
  /-- Headers that a `Connection` value names do not arrive. -/
  dropped : ∀ name ∈ Forwarding.connectionNames request.headers, name ∉ Forwarding.rewritten →
    call.headers.values name = []
  /-- Whatever arrives has been added or has the values that the caller sent. -/
  added : ∀ name : HeaderName, call.headers.values name ≠ [] →
    name ∈ gateway.addedNames call.via ∨
      call.headers.values name = request.headers.values name
  unframed : ∀ name ∈ [HeaderName.host, .contentLength], call.headers.values name = []
  sent : call.via = .send → ∀ name ∈ Forwarding.hopByHop, call.headers.values name = []
  upgraded : call.via = .upgrade →
    call.headers.Carries .connection ["Upgrade"] ∧
      (∃ protocol, request.headers.get? .upgrade = some protocol ∧
        call.headers.values .upgrade = [protocol]) ∧
      ∀ name ∈ Forwarding.hopByHop, name ≠ .connection → name ≠ .upgrade →
        call.headers.values name = []

/-! ### Authentication -/

section Authenticated

variable {gateway : Gateway} {token : String → Except Failure String} {table : MappingTable}
  {caller : Ip.Address} {before after : Headers}

/-- Authentication changes the headers that it replaces and no other. -/
theorem values_authenticated_of_not_replaces
    (h : gateway.authenticated token table caller before = .ok after) {name : HeaderName}
    (hname : ¬ gateway.Replaces name) : after.values name = before.values name := by
  simp only [Replaces, not_or, not_and] at hname
  obtain ⟨himpersonation, hauthorization, hagent⟩ := hname
  have hattached := Credential.attached_of_ok (authenticated_eq_ok_iff.1 h).2
  have hdraft : (Impersonation.apply gateway.policy table caller before).headers.values name =
      before.values name := by
    by_cases hmode : gateway.policy.mode = .auth
    · exact Impersonation.values_apply_of_not_impersonation _ _ _ _
        (Bool.eq_false_iff.2 (himpersonation hmode))
    · rw [Impersonation.headers_apply_of_ne_auth hmode]
  refine Eq.trans ?_ hdraft
  by_cases hother : name = .authorization
  · have hcredential : gateway.credential.writesAuthorization = false :=
      Bool.eq_false_iff.2 fun hwrites ↦ hauthorization hwrites hother
    rw [hother]
    exact hattached.authorization.values_eq hcredential
  · exact hattached.others name hagent hother

/-- Of the headers that it replaces, authentication leaves those that it adds. -/
theorem mem_addedNames_of_authenticated
    (h : gateway.authenticated token table caller before = .ok after) {name : HeaderName}
    (hname : gateway.Replaces name) (hvalues : after.values name ≠ []) (via : Via) :
    name ∈ gateway.addedNames via := by
  simp only [addedNames, List.mem_append]
  rcases hname with ⟨hmode, himpersonation⟩ | ⟨hcredential, rfl⟩ | rfl
  · have hcarries := carries_authenticated hmode h himpersonation
    cases htext : Impersonation.text?
        (Impersonation.resolve gateway.policy table caller.text).identity caller.text name with
    | none =>
      rw [htext] at hcarries
      exact absurd ((Headers.carries_nil_iff _ _).1 hcarries) hvalues
    | some text =>
      rw [if_pos hmode]
      exact Or.inl (Or.inl (Or.inl (Impersonation.mem_written_of_text? htext)))
  · rw [if_pos hcredential]
    exact Or.inl (Or.inl (Or.inr (List.mem_singleton_self _)))
  · exact Or.inl (Or.inr List.mem_cons_self)

end Authenticated

/-! ### Forwarding -/

theorem mem_rewritten_of_mem_hopByHop {name : HeaderName} (h : name ∈ Forwarding.hopByHop) :
    name ∈ Forwarding.rewritten ∧ name ≠ .xForwardedFor := by
  refine ⟨List.mem_append_right _ h, ?_⟩
  rintro rfl
  exact absurd h (by decide)

/-- Forwarding adds the address of the caller, and for an upgrade the two headers that ask for
it. -/
theorem mem_addedNames_of_rewritten (gateway : Gateway) {name : HeaderName} {via : Via}
    (h : name = .xForwardedFor ∨ via = .upgrade ∧ (name = .connection ∨ name = .upgrade)) :
    name ∈ gateway.addedNames via := by
  simp only [addedNames, List.mem_append]
  rcases h with rfl | ⟨rfl, hname⟩
  · exact Or.inl (Or.inr (List.mem_cons_of_mem _ List.mem_cons_self))
  · exact Or.inr (by simpa using hname)

section Forwarded

variable {caller : Ip.Address} {headers : Headers} {via : Via}
  (hvia : Forwarding.isUpgrade headers = true ↔ via = .upgrade)
include hvia

/-- The names that forwarding rewrites are left without values, but for the few that it adds. -/
theorem values_callHeaders_of_mem {name : HeaderName} (hname : name ∈ Forwarding.rewritten)
    (hforwarded : name ≠ .xForwardedFor)
    (hupgrade : via = .upgrade → name ≠ .connection ∧ name ≠ .upgrade) :
    (callHeaders caller headers).values name = [] := by
  unfold callHeaders
  split
  · rename_i hasked
    obtain ⟨hconnection, hprotocol⟩ := hupgrade (hvia.1 hasked)
    rw [Forwarding.values_upgradeHeaders_of_ne _ _ hconnection hprotocol]
    exact Forwarding.values_requestHeaders_of_mem headers _ hname hforwarded
  · exact Forwarding.values_requestHeaders_of_mem headers _ hname hforwarded

theorem values_callHeaders_of_mem_hopByHop {name : HeaderName}
    (hname : name ∈ Forwarding.hopByHop)
    (hupgrade : via = .upgrade → name ≠ .connection ∧ name ≠ .upgrade) :
    (callHeaders caller headers).values name = [] :=
  values_callHeaders_of_mem hvia (mem_rewritten_of_mem_hopByHop hname).1
    (mem_rewritten_of_mem_hopByHop hname).2 hupgrade

theorem callHeaders_of_upgrade (hupgrade : via = .upgrade) :
    (callHeaders caller headers).Carries .connection ["Upgrade"] ∧
      ∃ protocol, headers.get? .upgrade = some protocol ∧
        (callHeaders caller headers).values .upgrade = [protocol] := by
  have hasked := hvia.2 hupgrade
  obtain ⟨protocol, hprotocol⟩ := Forwarding.exists_get?_of_isUpgrade hasked
  rw [callHeaders, if_pos hasked]
  exact ⟨Forwarding.carries_upgradeHeaders_connection hprotocol _, protocol, hprotocol,
    Forwarding.values_upgradeHeaders_upgrade hprotocol _⟩

/-- Whatever a call has under a name has been added or stems from the caller. -/
theorem callHeaders_added {gateway : Gateway} {token : String → Except Failure String}
    {table : MappingTable} {before : Headers}
    (h : gateway.authenticated token table caller before = .ok headers) {name : HeaderName}
    (hvalues : (callHeaders caller headers).values name ≠ []) :
    name ∈ gateway.addedNames via ∨
      (callHeaders caller headers).values name = before.values name := by
  by_cases hrewritten : name ∈ Forwarding.rewritten
  · refine Or.inl (gateway.mem_addedNames_of_rewritten (Classical.byContradiction fun hother ↦ ?_))
    simp only [not_or, not_and] at hother
    exact hvalues (values_callHeaders_of_mem hvia hrewritten hother.1 hother.2)
  · -- dropped, or as authentication left it
    have hpassed := values_callHeaders_authenticated h hrewritten
    split at hpassed
    · exact absurd hpassed hvalues
    · rw [hpassed] at hvalues ⊢
      by_cases hreplaced : gateway.Replaces name
      · exact Or.inl (mem_addedNames_of_authenticated h hreplaced hvalues _)
      · exact Or.inr (values_authenticated_of_not_replaces h hreplaced)

end Forwarded

/-! ### Calls -/

/-- Assumes: a call that a request has become, in any mode and for an answer or an upgrade. The
request is framed by it: the method is the caller's, headers arrive as they were sent unless the
gateway replaces or rewrites them or a `Connection` value names them, and beyond them only the named
few are added. -/
theorem framed_of_mem_calls {gateway : Gateway} {token : String → Except Failure String}
    {reply : Call → Reply} {connection : Option String} {table : MappingTable} {peer : Ip.Socket}
    {request : Request} {call : Call}
    (hcall : call ∈ (gateway.exchange token reply connection table peer request).calls) :
    gateway.Framed request call := by
  have hbecame := became_of_mem_calls hcall
  obtain ⟨headers, hheaders, hsent⟩ := hbecame.headers
  have hvia : Forwarding.isUpgrade headers = true ↔ call.via = .upgrade := by
    rw [isUpgrade_authenticated hheaders]
    exact hbecame.via_iff
  refine ⟨hbecame.method, ?kept, ?dropped, ?added, ?unframed, ?sent, ?upgraded⟩
  all_goals rw [hsent]
  case kept =>
    intro name hreplaced hrewritten hnamed
    rw [values_callHeaders_authenticated hheaders hrewritten, if_neg hnamed]
    exact values_authenticated_of_not_replaces hheaders hreplaced
  case dropped =>
    intro name hnamed hrewritten
    rw [values_callHeaders_authenticated hheaders hrewritten, if_pos hnamed]
  case added => exact fun name ↦ callHeaders_added hvia hheaders
  case unframed =>
    simp only [List.forall_mem_cons, List.not_mem_nil, false_imp_iff, implies_true, and_true]
    constructor <;> exact values_callHeaders_of_mem hvia (by decide) (by decide) fun _ ↦ by decide
  case sent =>
    intro hsend name hname
    refine values_callHeaders_of_mem_hopByHop hvia hname fun hupgrade ↦ ?_
    rw [hsend] at hupgrade
    cases hupgrade
  case upgraded =>
    intro hupgrade
    obtain ⟨hconnection, protocol, hprotocol, hvalue⟩ := callHeaders_of_upgrade hvia hupgrade
    have hasked : headers.values .upgrade = request.headers.values .upgrade :=
      values_authenticated hheaders (by decide) (by decide) (by decide)
    refine ⟨hconnection, ⟨protocol, ?_, hvalue⟩, fun name hname hfirst hsecond ↦ ?_⟩
    · rw [← hprotocol, Headers.get?, Headers.get?, hasked]
    · exact values_callHeaders_of_mem_hopByHop hvia hname fun _ ↦ ⟨hfirst, hsecond⟩

/-- A caller that asks for an upgrade, traces its request with two values and keeps a header to the
first hop: the values arrive in order, and the header does not. -/
theorem framed_sample :
    let trace : HeaderName := ⟨"x-trace", by decide⟩
    let debug : HeaderName := ⟨"x-debug", by decide⟩
    let one : HeaderValue := ⟨Text.utf8 "one", by decide, false⟩
    let two : HeaderValue := ⟨Text.utf8 "two", by decide, false⟩
    let request : Request :=
      { method := "GET"
        path := "/api"
        headers := ⟨[(trace, one), (.connection, ⟨Text.utf8 "upgrade, X-Debug", by decide, false⟩),
          (debug, one), (.upgrade, two), (trace, two)]⟩ }
    ∃ call ∈ sampleCalls request, call.via = .upgrade ∧ sample.Framed request call ∧
      call.headers.values trace = [one, two] ∧ call.headers.values debug = [] ∧
        call.headers.values .upgrade = [two] := by
  intro trace debug one two request
  refine (List.exists_mem_of_length_pos (by decide)).imp fun call hcall ↦ ⟨hcall, ?_⟩
  have hframed : sample.Framed request call := framed_of_mem_calls hcall
  have hvia : call.via = .upgrade := by
    have hall : ∀ call ∈ sampleCalls request, call.via = .upgrade := by decide
    exact hall call hcall
  obtain ⟨_, ⟨protocol, hprotocol, hupgrade⟩, _⟩ := hframed.upgraded hvia
  refine ⟨hvia, hframed, ?_, hframed.dropped debug (by decide) (by decide), ?_⟩
  · refine hframed.kept trace ?_ (by decide) (by decide)
    unfold Replaces
    decide
  · have hfirst : request.headers.get? .upgrade = some two := by decide
    rw [hupgrade, Option.some.inj (hprotocol.symm.trans hfirst)]

end OverlayGateway.Gateway
