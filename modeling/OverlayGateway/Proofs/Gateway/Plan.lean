import OverlayGateway.Gateway
import OverlayGateway.Proofs.Credential
import OverlayGateway.Proofs.Forwarding
/-!
How a request is planned. A call is planned for a proxied path, another method than `OPTIONS`, a
caller that can be presented and authenticated, and a body that can be read or is not asked for. The
headers of the call are those that authentication leaves, as forwarding passes them on.
-/

set_option autoImplicit false
set_option relaxedAutoImplicit false

namespace OverlayGateway.Gateway

open Http

/-! ### Plans and the answers of the token reader -/

/-- The headers of an authenticated request, when the token reader answers with `token`. -/
def authenticated (gateway : Gateway) (token : String → Except Failure String)
    (table : MappingTable) (caller : Ip.Address) (headers : Headers) : Except Failure Headers :=
  let draft := Impersonation.apply gateway.policy table caller headers
  match draft.failure with
  | some failure => .error failure
  | none => gateway.credential.attached token draft.headers

/-- The plan that an attempt to make a call comes to. -/
def Plan.ofAttempt : Except Failure Call → Plan
  | .error failure => .answer (failed failure)
  | .ok made => .call made

/-- The plan for a request, when the token reader answers with `token`. -/
def planned (gateway : Gateway) (token : String → Except Failure String) (table : MappingTable)
    (caller : Ip.Address) (request : Request) : Plan :=
  if !admits request.path then .answer { response := .unrouted request.path }
  else if request.method = "OPTIONS" then .answer { response := preflight }
  else
    match gateway.authenticated token table caller request.headers with
    | .error failure => .answer { response := failure.answer }
    | .ok headers => .ofAttempt (gateway.call caller { request with headers })

section Pure

variable {m : Type → Type} [Monad m] [LawfulMonad m]

theorem authenticate_pure (gateway : Gateway) (token : String → Except Failure String)
    (table : MappingTable) (caller : Ip.Address) (headers : Headers) :
    gateway.authenticate (fun path ↦ (pure (token path) : m _)) table caller headers =
      pure (gateway.authenticated token table caller headers) := by
  unfold authenticate authenticated
  cases hfailure : (Impersonation.apply gateway.policy table caller headers).failure with
  | some failure => simp only [hfailure]
  | none => simp only [hfailure, Credential.attach_pure]

/-- In every monad, the plan depends on the answers of the token reader and nothing else. -/
theorem plan_pure (gateway : Gateway) (token : String → Except Failure String)
    (table : MappingTable) (caller : Ip.Address) (request : Request) :
    gateway.plan (fun path ↦ (pure (token path) : m _)) table caller request =
      pure (gateway.planned token table caller request) := by
  unfold plan planned
  rw [authenticate_pure, pure_bind]
  split
  · rfl
  · split
    · rfl
    · cases gateway.authenticated token table caller request.headers with
      | error failure => rfl
      | ok headers =>
        show (match gateway.call caller { request with headers } with
          | .error failure => pure (.answer (failed failure))
          | .ok call => pure (.call call) : m Plan) = _
        cases hcall : gateway.call caller { request with headers } <;>
          simp only [hcall, Plan.ofAttempt]

end Pure

/-- A call is planned in exactly one case. -/
theorem planned_eq_call_iff {gateway : Gateway} {token : String → Except Failure String}
    {table : MappingTable} {caller : Ip.Address} {request : Request} {call : Call} :
    gateway.planned token table caller request = .call call ↔
      admits request.path = true ∧ request.method ≠ "OPTIONS" ∧
        ∃ headers, gateway.authenticated token table caller request.headers = .ok headers ∧
          gateway.call caller { request with headers } = .ok call := by
  unfold planned
  cases hadmits : admits request.path with
  | false => simp
  | true =>
    by_cases hmethod : request.method = "OPTIONS"
    · simp [hmethod]
    · cases hheaders : gateway.authenticated token table caller request.headers with
      | error failure => simp [hmethod]
      | ok headers =>
        cases hcall : gateway.call caller { request with headers } <;>
          simp [hmethod, hcall, Plan.ofAttempt]

/-! ### Authenticated headers -/

section Authenticated

variable {gateway : Gateway} {token : String → Except Failure String} {table : MappingTable}
  {caller : Ip.Address} {before after : Headers}

theorem authenticated_eq_ok_iff :
    gateway.authenticated token table caller before = .ok after ↔
      (Impersonation.apply gateway.policy table caller before).failure = none ∧
        gateway.credential.attached token
          (Impersonation.apply gateway.policy table caller before).headers = .ok after := by
  unfold authenticated
  cases hfailure : (Impersonation.apply gateway.policy table caller before).failure with
  | some failure => simp [hfailure]
  | none => simp [hfailure]

/-- Apart from the identity and the credential, a request keeps its headers. -/
theorem values_authenticated (h : gateway.authenticated token table caller before = .ok after)
    {name : HeaderName} (himpersonation : Impersonation.isImpersonation name = false)
    (hagent : name ≠ .userAgent) (hauthorization : name ≠ .authorization) :
    after.values name = before.values name := by
  obtain ⟨_, hattached⟩ := authenticated_eq_ok_iff.1 h
  rw [(Credential.attached_of_ok hattached).others name hagent hauthorization]
  exact Impersonation.values_apply_of_not_impersonation _ _ _ _ himpersonation

theorem ne_of_isImpersonation {name other : HeaderName}
    (hname : Impersonation.isImpersonation name = true)
    (hother : Impersonation.isImpersonation other = false) : name ≠ other := by
  rintro rfl
  rw [hname] at hother
  cases hother

/-- In `auth` mode the impersonation headers are those of the identity that the table or the policy
has for the caller. -/
theorem carries_authenticated (hmode : gateway.policy.mode = .auth)
    (h : gateway.authenticated token table caller before = .ok after) {name : HeaderName}
    (hname : Impersonation.isImpersonation name = true) :
    after.Carries name
      (Impersonation.text? (Impersonation.resolve gateway.policy table caller.text).identity
        caller.text name).toList := by
  obtain ⟨hsucceeded, hattached⟩ := authenticated_eq_ok_iff.1 h
  have hcarries := Impersonation.carries_apply hmode table caller before hsucceeded hname
  exact hcarries.of_values_eq ((Credential.attached_of_ok hattached).others name
    (ne_of_isImpersonation hname (by decide)) (ne_of_isImpersonation hname (by decide)))

theorem connectionNames_authenticated
    (h : gateway.authenticated token table caller before = .ok after) :
    Forwarding.connectionNames after = Forwarding.connectionNames before :=
  Forwarding.connectionNames_congr
    (values_authenticated h (by decide) (by decide) (by decide))

theorem isUpgrade_authenticated
    (h : gateway.authenticated token table caller before = .ok after) :
    Forwarding.isUpgrade after = Forwarding.isUpgrade before :=
  Forwarding.isUpgrade_congr (values_authenticated h (by decide) (by decide) (by decide))
    (values_authenticated h (by decide) (by decide) (by decide))

end Authenticated

/-! ### Calls -/

/-- The headers of a call, given those of the authenticated request. -/
def callHeaders (caller : Ip.Address) (headers : Headers) : Headers :=
  if Forwarding.isUpgrade headers then Forwarding.upgradeHeaders headers caller.text
  else Forwarding.requestHeaders headers caller.text

/-- Forwarding writes and drops nothing about impersonation of its own. -/
theorem notMem_rewritten_of_isImpersonation {name : HeaderName}
    (h : Impersonation.isImpersonation name = true) : name ∉ Forwarding.rewritten := by
  have hnone : ∀ other ∈ Forwarding.rewritten, Impersonation.isImpersonation other = false := by
    decide
  exact fun hname ↦ ne_of_isImpersonation h (hnone name hname) rfl

theorem values_callHeaders (caller : Ip.Address) (headers : Headers) {name : HeaderName}
    (hname : name ∉ Forwarding.rewritten) :
    (callHeaders caller headers).values name =
      if name ∈ Forwarding.connectionNames headers then [] else headers.values name := by
  unfold callHeaders
  split
  · exact Forwarding.values_upgradeHeaders headers _ hname
  · exact Forwarding.values_requestHeaders headers _ hname

/-- A header that forwarding does not write itself leaves as authentication left it, unless the
caller named it. -/
theorem values_callHeaders_authenticated {gateway : Gateway}
    {token : String → Except Failure String} {table : MappingTable} {caller : Ip.Address}
    {before after : Headers} (h : gateway.authenticated token table caller before = .ok after)
    {name : HeaderName} (hname : name ∉ Forwarding.rewritten) :
    (callHeaders caller after).values name =
      if name ∈ Forwarding.connectionNames before then [] else after.values name := by
  rw [values_callHeaders _ _ hname, connectionNames_authenticated h]

/-- A call is made for an upgrade, or for a request whose body can be read. -/
theorem call_eq_ok_iff {gateway : Gateway} {caller : Ip.Address} {request : Request} {call : Call} :
    gateway.call caller request = .ok call ↔
      call.method = request.method ∧
        call.url = gateway.apiServer.below request.path request.query ∧
          call.headers = callHeaders caller request.headers ∧
            ((Forwarding.isUpgrade request.headers = true ∧ call.via = .upgrade ∧
                call.body = .empty) ∨
              (Forwarding.isUpgrade request.headers = false ∧ call.via = .send ∧
                readBody request = .ok call.body)) := by
  obtain ⟨via, method, url, headers, body⟩ := call
  unfold Gateway.call callHeaders
  cases hupgrade : Forwarding.isUpgrade request.headers with
  | true =>
    simp only [if_true, Except.ok.injEq, Call.mk.injEq, true_and, Bool.true_eq_false, false_and,
      or_false]
    grind
  | false =>
    cases hbody : readBody request with
    | error failure => simp [Except.map]
    | ok read =>
      simp only [Except.map, Except.ok.injEq]
      grind

end OverlayGateway.Gateway
