import OverlayGateway.Proofs.Gateway.Plan
/-!
One request as an observer sees it who notes every call of the API server. There is at most one
call, and it is the one that was planned, so everything that is known about a call follows from the
plan.

A request that is sent for an answer takes its body along as a whole, or is not sent; an upgrade is
asked for without any body, whatever the caller sent.
-/

set_option autoImplicit false
set_option relaxedAutoImplicit false

namespace OverlayGateway.Gateway

open Http

/-- What one request brings about: the calls of the API server, in order, and the answer. -/
structure Exchange where
  calls : List Call
  answer : Answer

/-- Calls the API server, which answers with `reply`, and notes the call. -/
def noting (reply : Call → Reply) (call : Call) : StateM (List Call) Reply := do
  modify fun calls ↦ calls ++ [call]
  return reply call

/-- Serves one request while every call is noted; `token` and `reply` are the answers of the token
reader and of the API server. -/
def exchange (gateway : Gateway) (token : String → Except Failure String) (reply : Call → Reply)
    (connection : Option String) (table : MappingTable) (peer : Ip.Socket) (request : Request) :
    Exchange :=
  let (answer, calls) := (gateway.serve (fun path ↦ pure (token path)) (noting reply) connection
    table peer request).run []
  ⟨calls, answer⟩

section Exchanges

variable {gateway : Gateway} {token : String → Except Failure String} {reply : Call → Reply}
  {connection : Option String} {table : MappingTable} {peer : Ip.Socket} {request : Request}

theorem exchange_of_answer {answer : Answer}
    (h : gateway.planned token table peer.address.canonical request = .answer answer) :
    gateway.exchange token reply connection table peer request =
      ⟨[], conclude request peer.address.canonical.text answer []⟩ := by
  unfold exchange serve
  simp only [plan_pure, pure_bind, h]
  rfl

theorem exchange_of_call {call : Call}
    (h : gateway.planned token table peer.address.canonical request = .call call) :
    gateway.exchange token reply connection table peer request =
      ⟨[call], conclude request peer.address.canonical.text (ofReply (reply call))
        (if (reply call).isSwitched then (connection.map unswitchedEvent).toList else [])⟩ := by
  unfold exchange serve
  simp only [plan_pure, pure_bind, h]
  rfl

/-- The calls of an exchange are the planned one, if there is one. -/
theorem mem_calls_exchange {call : Call} :
    call ∈ (gateway.exchange token reply connection table peer request).calls ↔
      gateway.planned token table peer.address.canonical request = .call call := by
  cases h : gateway.planned token table peer.address.canonical request with
  | answer answer => simp [exchange_of_answer h]
  | call planned =>
    rw [exchange_of_call h, List.mem_singleton, Plan.call.injEq]
    exact eq_comm

/-- What is known about a request and the call that it became. -/
structure Became (gateway : Gateway) (token : String → Except Failure String)
    (table : MappingTable) (caller : Ip.Address) (request : Request) (call : Call) : Prop where
  admitted : admits request.path = true
  method_ne : request.method ≠ "OPTIONS"
  method : call.method = request.method
  url : call.url = gateway.apiServer.below request.path request.query
  headers : ∃ headers, gateway.authenticated token table caller request.headers = .ok headers ∧
    call.headers = callHeaders caller headers
  body : (Forwarding.isUpgrade request.headers = true ∧ call.via = .upgrade ∧ call.body = .empty) ∨
    (Forwarding.isUpgrade request.headers = false ∧ call.via = .send ∧
      readBody request = .ok call.body)

theorem became_of_mem_calls {call : Call}
    (h : call ∈ (gateway.exchange token reply connection table peer request).calls) :
    gateway.Became token table peer.address.canonical request call := by
  obtain ⟨hadmitted, hmethod, headers, hheaders, hcall⟩ :=
    planned_eq_call_iff.1 (mem_calls_exchange.1 h)
  obtain ⟨hsame, hurl, hafter, hbody⟩ := call_eq_ok_iff.1 hcall
  rw [isUpgrade_authenticated hheaders] at hbody
  exact {
    admitted := hadmitted
    method_ne := hmethod
    method := hsame
    url := hurl
    headers := ⟨headers, hheaders, hafter⟩
    body := hbody }

theorem Became.via_iff {caller : Ip.Address} {call : Call}
    (h : gateway.Became token table caller request call) :
    Forwarding.isUpgrade request.headers = true ↔ call.via = .upgrade := by
  rcases h.body with ⟨hupgrade, hvia, _⟩ | ⟨hsend, hvia, _⟩
  · exact iff_of_true hupgrade hvia
  · rw [hsend, hvia]
    decide

end Exchanges

/-! ### A sample -/

/-- A gateway with a token of its own. -/
def sample : Gateway where
  credential := .bearerToken "token"
  apiServer :=
    { scheme := "https"
      location := .hierarchical
        { host := .v6 ⟨#v[0xFD00, 0, 0, 0, 0, 0, 0, 1]⟩, port := some 6443 } [""] }

def samplePeer : Ip.Socket := ⟨.v4 ⟨10, 0, 0, 1⟩, 50000⟩

/-- The calls that a request of an unmapped peer brings about. -/
def sampleCalls (request : Request) : List Call :=
  (sample.exchange (fun _ ↦ .ok "") (fun _ ↦ .switched {}) none .empty samplePeer request).calls

/-! ### Bodies -/

/-- A body can be passed on if it is short enough and arrived as a whole. -/
theorem readBody_eq_ok_iff {request : Request} {body : ByteArray} :
    readBody request = .ok body ↔
      body = request.body ∧ request.body.size ≤ maxBody ∧ request.bodyFault = none := by
  unfold readBody
  by_cases hlong : maxBody < request.body.size
  · simp [hlong, Nat.not_le.2 hlong]
  · cases hfault : request.bodyFault with
    | some cause => simp [hlong]
    | none => simp [hlong, Nat.not_lt.1 hlong, eq_comm]

/-- A call passes a body on as a whole if and only if it is no upgrade or the body is empty. -/
theorem body_kept_iff {gateway : Gateway} {token : String → Except Failure String}
    {reply : Call → Reply} {connection : Option String} {table : MappingTable} {peer : Ip.Socket}
    {request : Request} {call : Call}
    (hcall : call ∈ (gateway.exchange token reply connection table peer request).calls) :
    (call.body = request.body ∧ request.body.size ≤ maxBody ∧ request.bodyFault = none) ↔
      Forwarding.isUpgrade request.headers = false ∨
        (request.body = .empty ∧ request.bodyFault = none) := by
  rcases (became_of_mem_calls hcall).body with ⟨hupgrade, _, hempty⟩ | ⟨hsend, _, hread⟩
  · rw [hupgrade, hempty]
    constructor
    · rintro ⟨hbody, _, hfault⟩
      exact Or.inr ⟨hbody.symm, hfault⟩
    · rintro (hno | ⟨hbody, hfault⟩)
      · cases hno
      · rw [hbody]
        exact ⟨rfl, Nat.zero_le _, hfault⟩
  · rw [hsend]
    exact ⟨fun _ ↦ Or.inl rfl, fun _ ↦ readBody_eq_ok_iff.1 hread⟩

/-- A body of three bytes is passed on as it is, and dropped if the caller asks for an upgrade. -/
theorem body_kept_sample :
    (∃ call ∈ sampleCalls { method := "POST", path := "/api", body := ⟨#[97, 98, 99]⟩ },
      call.body = ⟨#[97, 98, 99]⟩) ∧
    ∃ call ∈ sampleCalls
        { method := "POST"
          path := "/api"
          headers := (Headers.empty.insert .connection
            ⟨Text.utf8 "Upgrade", by decide, false⟩).insert .upgrade
              ⟨Text.utf8 "h2c", by decide, false⟩
          body := ⟨#[97, 98, 99]⟩ },
      call.body ≠ ⟨#[97, 98, 99]⟩ := by
  constructor
  · refine (List.exists_mem_of_length_pos (by decide)).imp fun call hcall ↦ ⟨hcall, ?_⟩
    exact ((body_kept_iff hcall).2 (Or.inl (by decide))).1
  · refine (List.exists_mem_of_length_pos (by decide)).imp fun call hcall ↦ ⟨hcall, ?_⟩
    intro hbody
    rcases (body_kept_iff hcall).1 ⟨hbody, by decide, rfl⟩ with hsend | ⟨hempty, _⟩
    · exact absurd hsend (by decide)
    · exact absurd (congrArg ByteArray.size hempty) (by decide)

end OverlayGateway.Gateway
