import Mathlib.Data.List.Forall2
import OverlayGateway.Proofs.Gateway.Exchange
/-!
A caller has no say in whom it is presented as. In `auth` mode two requests that differ only in what
they say about impersonation bring about the same, step by step: the headers that authentication
leaves agree, so the plans agree, and so do calls and answers. What the API server reads about
impersonation comes from the policy, the table and the address of the peer.
-/

set_option autoImplicit false
set_option relaxedAutoImplicit false

namespace OverlayGateway.Gateway

open Http

/-- Two requests are alike up to their impersonation headers. -/
structure AlikeRequests (first second : Request) : Prop where
  method : first.method = second.method
  path : first.path = second.path
  query : first.query = second.query
  headers : first.headers.AgreeOff Impersonation.isImpersonation second.headers
  body : first.body = second.body
  bodyFault : first.bodyFault = second.bodyFault

/-- Two calls are the same, whatever the order in which the names of their headers come. -/
structure SameCall (first second : Call) : Prop where
  via : first.via = second.via
  method : first.method = second.method
  url : first.url = second.url
  headers : first.headers.Agree second.headers
  body : first.body = second.body

/-- Two plans are the same answer or the same call. -/
inductive SamePlan : Plan → Plan → Prop
  | answer (answer : Answer) : SamePlan (.answer answer) (.answer answer)
  | call {first second : Call} (h : SameCall first second) : SamePlan (.call first) (.call second)

theorem agree_authenticated {gateway : Gateway} (hmode : gateway.policy.mode = .auth)
    (token : String → Except Failure String) (table : MappingTable) (caller : Ip.Address)
    {first second : Headers} (h : first.AgreeOff Impersonation.isImpersonation second) :
    SameResult Headers.Agree (gateway.authenticated token table caller first)
      (gateway.authenticated token table caller second) := by
  have hdraft := Impersonation.agree_apply hmode table caller h
  unfold authenticated
  simp only [hdraft.failure]
  split
  · exact .error _
  · exact Credential.agree_attached hdraft.headers _ _

theorem readBody_congr {first second : Request} (hbody : first.body = second.body)
    (hfault : first.bodyFault = second.bodyFault) : readBody first = readBody second := by
  rw [readBody, readBody, hbody, hfault]

theorem agree_callHeaders {first second : Headers} (h : first.Agree second)
    (caller : Ip.Address) : (callHeaders caller first).Agree (callHeaders caller second) := by
  unfold callHeaders
  rw [Forwarding.isUpgrade_congr (h _) (h _)]
  split
  · exact Forwarding.agree_upgradeHeaders h _
  · exact Forwarding.agree_requestHeaders h _

/-- Requests that are alike and bear headers that agree become the same call. -/
theorem sameResult_call (gateway : Gateway) (caller : Ip.Address) {first second : Request}
    (h : AlikeRequests first second) {left right : Headers} (hagree : left.Agree right) :
    SameResult SameCall (gateway.call caller { first with headers := left })
      (gateway.call caller { second with headers := right }) := by
  have hheaders := agree_callHeaders hagree caller
  have hupgrade : Forwarding.isUpgrade left = Forwarding.isUpgrade right :=
    Forwarding.isUpgrade_congr (hagree _) (hagree _)
  unfold callHeaders at hheaders
  rw [hupgrade] at hheaders
  have hread : readBody { first with headers := left } =
      readBody { second with headers := right } :=
    readBody_congr h.body h.bodyFault
  unfold Gateway.call
  rw [hupgrade, hread, h.method, h.path, h.query]
  split
  · rename_i hyes
    rw [if_pos hyes, if_pos hyes] at hheaders
    exact .ok ⟨rfl, rfl, rfl, hheaders, rfl⟩
  · rename_i hno
    rw [if_neg hno, if_neg hno] at hheaders
    cases readBody { second with headers := right } with
    | error failure => exact .error failure
    | ok body =>
      refine .ok ⟨rfl, rfl, rfl, ?_, rfl⟩
      dsimp only
      exact hheaders

theorem samePlan_ofAttempt {first second : Except Failure Call}
    (h : SameResult SameCall first second) :
    SamePlan (.ofAttempt first) (.ofAttempt second) := by
  cases h with
  | error failure => exact .answer _
  | ok hcall => exact .call hcall

/-- Requests that are alike are planned in the same way. -/
theorem samePlan_of_alike {gateway : Gateway} (hmode : gateway.policy.mode = .auth)
    (token : String → Except Failure String) (table : MappingTable) (caller : Ip.Address)
    {first second : Request} (h : AlikeRequests first second) :
    SamePlan (gateway.planned token table caller first)
      (gateway.planned token table caller second) := by
  have hheaders := agree_authenticated hmode token table caller h.headers
  unfold planned
  rw [h.path, h.method]
  split
  · exact .answer _
  · split
    · exact .answer _
    · generalize gateway.authenticated token table caller first.headers = left at hheaders ⊢
      generalize gateway.authenticated token table caller second.headers = right at hheaders ⊢
      cases hheaders with
      | error failure => exact .answer _
      | @ok left right hagree =>
        have hcall := sameResult_call gateway caller h hagree
        rw [h.method, h.path] at hcall
        exact samePlan_ofAttempt hcall

theorem conclude_congr {first second : Request} (h : AlikeRequests first second) (caller : String)
    (answer : Answer) (after : List Log.Event) :
    conclude first caller answer after = conclude second caller answer after := by
  unfold conclude requestEvent
  rw [h.path, h.method]

/-- Requests that are alike bring about the same. -/
theorem sameExchange_of_alike {gateway : Gateway} (hmode : gateway.policy.mode = .auth)
    (token : String → Except Failure String) (reply : Call → Reply) (connection : Option String)
    (table : MappingTable) (peer : Ip.Socket) {first second : Request}
    (h : AlikeRequests first second) :
    let one := gateway.exchange token reply connection table peer first
    let two := gateway.exchange token reply connection table peer second
    List.Forall₂ SameCall one.calls two.calls ∧
      ((∀ a ∈ one.calls, ∀ b ∈ two.calls, reply a = reply b) → one.answer = two.answer) := by
  intro one two
  have hplan := samePlan_of_alike hmode token table peer.address.canonical h
  generalize hone : gateway.planned token table peer.address.canonical first = left at hplan
  generalize htwo : gateway.planned token table peer.address.canonical second = right at hplan
  cases hplan with
  | answer answer =>
    simp only [one, two, exchange_of_answer hone, exchange_of_answer htwo, conclude_congr h]
    exact ⟨.nil, fun _ ↦ trivial⟩
  | @call a b hsame =>
    simp only [one, two, exchange_of_call hone, exchange_of_call htwo, conclude_congr h]
    refine ⟨.cons hsame .nil, fun hreply ↦ ?_⟩
    rw [hreply a (List.mem_singleton_self a) b (List.mem_singleton_self b)]

/-! ### What the API server reads about impersonation -/

/-- The text that the policy, the table and the address of a peer put under a name. -/
def assigned? (gateway : Gateway) (table : MappingTable) (peer : Ip.Socket) (name : HeaderName) :
    Option String :=
  let caller := peer.address.canonical.text
  Impersonation.text? (Impersonation.resolve gateway.policy table caller).identity caller name

theorem values_impersonation {gateway : Gateway} {token : String → Except Failure String}
    {reply : Call → Reply} {connection : Option String} {table : MappingTable} {peer : Ip.Socket}
    {request : Request} {call : Call} (hmode : gateway.policy.mode = .auth)
    (hcall : call ∈ (gateway.exchange token reply connection table peer request).calls)
    {name : HeaderName} (hname : Impersonation.isImpersonation name = true) :
    call.headers.values name = [] ∨
      call.headers.Carries name (gateway.assigned? table peer name).toList := by
  obtain ⟨headers, hheaders, hsent⟩ := (became_of_mem_calls hcall).headers
  have hvalues := values_callHeaders peer.address.canonical headers
    (notMem_rewritten_of_isImpersonation hname)
  rw [hsent]
  split at hvalues
  · exact Or.inl hvalues
  · exact Or.inr ((carries_authenticated hmode hheaders hname).of_values_eq hvalues)

/-- In `auth` mode requests that are alike up to their impersonation headers bring about the same
calls, and the same answer where the API server replies alike. An impersonation header of a call is
one of four, with one value that the policy, the table and the address of the peer determine. -/
theorem impersonation_isolated {gateway : Gateway} (hmode : gateway.policy.mode = .auth)
    (token : String → Except Failure String) (reply : Call → Reply) (connection : Option String)
    (table : MappingTable) (peer : Ip.Socket) :
    (∀ first second : Request, AlikeRequests first second →
      let one := gateway.exchange token reply connection table peer first
      let two := gateway.exchange token reply connection table peer second
      List.Forall₂ SameCall one.calls two.calls ∧
        ((∀ a ∈ one.calls, ∀ b ∈ two.calls, reply a = reply b) → one.answer = two.answer)) ∧
    ∀ request : Request,
      ∀ call ∈ (gateway.exchange token reply connection table peer request).calls,
        ∀ name : HeaderName, Impersonation.isImpersonation name = true →
          call.headers.values name = [] ∨
            name ∈ Impersonation.written ∧
              ∃ text, gateway.assigned? table peer name = some text ∧
                call.headers.Carries name [text] := by
  constructor
  · intro first second halike
    exact sameExchange_of_alike hmode token reply connection table peer halike
  · intro request call hcall name hname
    rcases values_impersonation hmode hcall hname with hnil | hcarries
    · exact Or.inl hnil
    · cases hassigned : gateway.assigned? table peer name with
      | none =>
        rw [hassigned] at hcarries
        exact Or.inl ((Headers.carries_nil_iff _ _).1 hcarries)
      | some text =>
        rw [hassigned] at hcarries
        exact Or.inr ⟨Impersonation.mem_written_of_text? hassigned, text, rfl, hcarries⟩

/-- A peer that claims to be an administrator brings about what it does without the claim. -/
theorem impersonation_isolated_sample :
    (sampleCalls { method := "GET", path := "/api" }).length = 1 ∧
      List.Forall₂ SameCall (sampleCalls { method := "GET", path := "/api" })
        (sampleCalls
          { method := "GET"
            path := "/api"
            headers := Headers.empty.insert Impersonation.userHeader
              ⟨Text.utf8 "admin", by decide, false⟩ }) := by
  refine ⟨by decide, ((impersonation_isolated rfl _ _ _ _ _).1 _ _ ?_).1⟩
  refine ⟨rfl, rfl, rfl, fun name hname ↦ ?_, rfl, rfl⟩
  have hne : name ≠ Impersonation.userHeader := by
    rintro rfl
    cases hname
  exact (Headers.values_insert_of_ne _ _ hne).symm

end OverlayGateway.Gateway
