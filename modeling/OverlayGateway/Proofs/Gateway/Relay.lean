import OverlayGateway.Proofs.Forwarding.HopByHop
import OverlayGateway.Proofs.Gateway.Disclosure
/-!
What the caller gets for each reply of the API server. An answer keeps its status, its body and its
headers, but for those that describe the connection to the API server; a connection that is switched
keeps every header. Either way a page of any origin may read the answer, whatever the API server
says about origins and whatever its `Connection` values name: what they name is dropped first. A
call that failed is answered with the status and the document of its failure and logged, unless the
failure only says that the caller went away. A body that is streamed reaches the caller without a
length that the API server did not state.
-/

set_option autoImplicit false
set_option relaxedAutoImplicit false

namespace OverlayGateway

open Http

namespace Gateway

/-! ### Headers of an answer -/

/-- The headers by which a page of any origin may read an answer. -/
def grants : List HeaderName :=
  [.accessControlAllowOrigin, .accessControlAllowMethods, .accessControlAllowHeaders]

theorem values_allowOrigins_of_notMem (headers : Headers) {name : HeaderName}
    (hname : name ∉ grants) : (allowOrigins headers).values name = headers.values name := by
  simp only [grants, List.mem_cons, List.not_mem_nil, or_false, not_or] at hname
  obtain ⟨horigin, hmethods, hheaders⟩ := hname
  rw [allowOrigins, Headers.values_insert_of_ne _ _ hheaders,
    Headers.values_insert_of_ne _ _ hmethods, Headers.values_insert_of_ne _ _ horigin]

/-- Headers that are passed on to the caller: those that are dropped are gone, every other name has
its values in their order, and the headers for other origins are the gateway's own. -/
structure PassesOn (drops : HeaderName → Prop) (received answered : Headers) : Prop where
  allows : AllowsOrigins answered
  gone : ∀ name ∉ grants, drops name → answered.values name = []
  kept : ∀ name ∉ grants, ¬ drops name → answered.values name = received.values name

theorem passesOn_stripHopByHop (received : Headers) :
    PassesOn (Forwarding.IsHopByHop received) received
      (allowOrigins (Forwarding.stripHopByHop received)) where
  allows := allowsOrigins_allowOrigins _
  gone := by
    intro name hname hdrops
    rw [values_allowOrigins_of_notMem _ hname,
      Forwarding.values_stripHopByHop_of_isHopByHop hdrops]
  kept := by
    intro name hname hkeeps
    rw [values_allowOrigins_of_notMem _ hname,
      Forwarding.values_stripHopByHop_of_not_isHopByHop hkeeps]

theorem passesOn_allowOrigins (received : Headers) :
    PassesOn (fun _ ↦ False) received (allowOrigins received) where
  allows := allowsOrigins_allowOrigins received
  gone := fun _ _ hdrops ↦ hdrops.elim
  kept := fun _ hname _ ↦ values_allowOrigins_of_notMem received hname

/-! ### Replies and their answers -/

/-- A failure whose text says that the caller went away. -/
def SaysGone (failure : Failure) : Prop :=
  "client disconnected".toList <:+: failure.message.toList ∨
    "request canceled".toList <:+: failure.message.toList

theorem isDisconnect_iff_saysGone {failure : Failure} :
    failure.isDisconnect = true ↔ SaysGone failure := by
  simp [Failure.isDisconnect_iff, Failure.disconnectMarkers, SaysGone]

/-- What a reply of the API server is answered with, one case for each reply; a failure has two. A
refused upgrade is a response like any other. -/
inductive Relays : Reply → Answer → Prop
  | response {received answered : Response} (hstatus : answered.status = received.status)
      (hbody : answered.SameBody received)
      (hheaders : PassesOn (Forwarding.IsHopByHop received.headers) received.headers
        answered.headers) :
      Relays (.response received) ⟨answered, []⟩
  | switched {received answered : Headers}
      (hheaders : PassesOn (fun _ ↦ False) received answered) :
      Relays (.switched received) ⟨{ status := 101, headers := answered }, []⟩
  | gone {failure : Failure} (hgone : SaysGone failure) :
      Relays (.failed failure) ⟨{ status := 499 }, []⟩
  | failed {failure : Failure} {status : Nat} {members : List (String × String)}
      (hpresent : ¬ SaysGone failure) (htold : failure.Tells status members)
      {answered : Response}
      (hstatus : answered.status = status)
      (hbody : answered.SameBody
        { status, body := (Failure.textDocument members).text.toUTF8 })
      (htype : answered.headers.Carries .contentType ["application/json"])
      (hothers : ∀ name ≠ .contentType, answered.headers.values name = [])
      {event : Log.Event} (hlevel : event.level = .error)
      (hmessage : event.message = "Failed to proxy request to API server")
      (hcause : event.fields = [("error", .text failure.message)]) :
      Relays (.failed failure) ⟨answered, [event]⟩

theorem relays_failed (failure : Failure) : Relays (.failed failure) (failed failure) := by
  unfold failed
  by_cases hgone : failure.isDisconnect = true
  · rw [if_pos hgone]
    exact .gone (isDisconnect_iff_saysGone.1 hgone)
  · obtain ⟨members, htold, hdocument⟩ := failure.exists_tells
    have hbody : failure.answer.body = (Failure.textDocument members).text.toUTF8 :=
      congrArg (fun document ↦ document.text.toUTF8) hdocument
    rw [if_neg hgone]
    exact .failed (mt isDisconnect_iff_saysGone.2 hgone) htold rfl ⟨hbody, rfl, rfl⟩
      (Response.carries_json _ _) (fun _ ↦ Response.values_json_of_ne _ _) rfl rfl rfl

theorem relays_ofReply (reply : Reply) : Relays reply (ofReply reply) := by
  cases reply with
  | response received =>
    exact .response rfl ⟨rfl, rfl, rfl⟩ (passesOn_stripHopByHop received.headers)
  | switched received => exact .switched (passesOn_allowOrigins received)
  | failed failure => exact relays_failed failure

/-! ### Exchanges -/

/-- The events of an answer that report an error. -/
def Answer.errors (answer : Answer) : List Log.Event :=
  answer.log.filter fun event ↦ event.level = .error

theorem errors_conclude (request : Request) (caller : String) (answer : Answer)
    (after : List Log.Event) :
    (conclude request caller answer after).errors =
      answer.errors ++ after.filter fun event ↦ event.level = .error := by
  unfold Answer.errors conclude
  dsimp only
  rw [List.filter_append]
  rfl

theorem filter_unswitched (switched : Bool) (connection : Option String) :
    ((if switched then (connection.map unswitchedEvent).toList else []).filter
      fun event ↦ event.level = .error) =
      if switched then (connection.map unswitchedEvent).toList else [] := by
  cases switched with
  | false => rfl
  | true => cases connection <;> rfl

/-- Every reply of the API server is answered as it has to be. To the caller of a request that
became a call that answer leaves, with its status, its headers and its body, and its errors are all
that is reported, unless the caller's own connection cannot be switched. -/
theorem replies_relayed :
    (∀ reply : Reply, Relays reply (ofReply reply)) ∧
    ∀ (gateway : Gateway) (token : String → Except Failure String) (reply : Call → Reply)
      (connection : Option String) (table : MappingTable) (peer : Ip.Socket) (request : Request)
      (call : Call),
      call ∈ (gateway.exchange token reply connection table peer request).calls →
        Response.Leaves request.method (ofReply (reply call)).response
            (gateway.exchange token reply connection table peer request).answer.response ∧
          (gateway.exchange token reply connection table peer request).answer.errors =
            (ofReply (reply call)).errors ++
              if (reply call).isSwitched then (connection.map unswitchedEvent).toList else [] := by
  refine ⟨relays_ofReply, ?_⟩
  intro gateway token reply connection table peer request call hcall
  have hadmitted := (became_of_mem_calls hcall).admitted
  rw [exchange_of_call (mem_calls_exchange.1 hcall), errors_conclude, filter_unswitched,
    response_conclude_of_admits hadmitted]
  exact ⟨Response.leaves_finished request.method _, rfl⟩

/-- A streamed response that has something to say about origins itself, and whose `Connection` value
names that header and another one. -/
def claiming : Response where
  status := 203
  headers := ⟨[(.accessControlAllowOrigin, ⟨Text.utf8 "https://a.example", by decide, false⟩),
    (.connection, ⟨Text.utf8 "Access-Control-Allow-Origin, Allow", by decide, false⟩),
    (.allow, ⟨Text.utf8 "GET", by decide, false⟩),
    (.userAgent, ⟨Text.utf8 "a", by decide, false⟩),
    (.userAgent, ⟨Text.utf8 "b", by decide, false⟩)]⟩
  body := "chunk".toUTF8
  streamed := true

/-- A request of which the API server gets a call that it gives a reply to. -/
def replied (reply : Reply) : Exchange :=
  sample.exchange (fun _ ↦ .ok "") (fun _ ↦ reply) none .empty samplePeer
    { method := "GET", path := "/api" }

/-- What the API server says about origins is not passed on, and neither is what it names; the
length of what it streams stays open. A failure is answered with its own status and document. -/
theorem replies_relayed_sample :
    let passed := replied (.response claiming)
    let unreached := replied (.failed (.forwarding "connection refused"))
    let gone := replied (.failed (.forwarding "client disconnected"))
    ((∃ call, call ∈ passed.calls) ∧ passed.answer.errors = [] ∧
      passed.answer.response.status = 203 ∧ passed.answer.response.body = "chunk".toUTF8 ∧
      passed.answer.response.headers.Carries .accessControlAllowOrigin ["*"] ∧
      passed.answer.response.headers.Carries .allow [] ∧
      passed.answer.response.headers.Carries .userAgent ["a", "b"] ∧
      passed.answer.response.headers.Carries .contentLength []) ∧
    ((∃ call, call ∈ unreached.calls) ∧
      unreached.answer.errors.map Log.Event.fields =
        [[("error", .text "proxy error: connection refused")]] ∧
      unreached.answer.response.status = 502 ∧
      unreached.answer.response.body = "\x7b\"error\":\"upstream error\"\x7d".toUTF8 ∧
      unreached.answer.response.headers.Carries .contentType ["application/json"] ∧
      unreached.answer.response.headers.Carries .contentLength ["26"]) ∧
    (∃ call, call ∈ gone.calls) ∧ gone.answer.errors = [] ∧
      gone.answer.response.status = 499 ∧ gone.answer.response.body = .empty := by
  intro passed unreached gone
  obtain ⟨hrelays, hreplied⟩ := replies_relayed
  have hleaves {reply : Reply} (hcalled : 0 < (replied reply).calls.length) :
      (∃ call, call ∈ (replied reply).calls) ∧
        Response.Leaves "GET" (ofReply reply).response (replied reply).answer.response ∧
          (replied reply).answer.errors = (ofReply reply).errors := by
    obtain ⟨call, hcall⟩ := List.exists_mem_of_length_pos hcalled
    obtain ⟨hleaves, herrors⟩ := hreplied _ _ _ none _ _ _ call hcall
    refine ⟨⟨call, hcall⟩, hleaves, herrors.trans ?_⟩
    rw [Option.map_none, Option.toList_none, ite_self, List.append_nil]
  have hopen {response : Response} : ¬ Response.Tunnels "GET" response :=
    fun htunnel ↦ absurd htunnel.1 (by decide)
  have hbody {response sent : Response} (hleft : Response.Leaves "GET" response sent) :
      sent.SameBody response :=
    hleft.body (by decide) fun hboth ↦ hopen hboth.1
  refine ⟨?passed, ?unreached, ?gone⟩
  case passed =>
    obtain ⟨hcalled, hleft, herrors⟩ := hleaves (by decide : 0 < passed.calls.length)
    have hvalues {name : HeaderName} {texts : List String} (hname : name ≠ .contentLength)
        (hcarries : (ofReply (.response claiming)).response.headers.Carries name texts) :
        passed.answer.response.headers.Carries name texts :=
      hcarries.of_values_eq (hleft.headers name hname)
    exact ⟨hcalled, herrors, hleft.status, (hbody hleft).body,
      hvalues (by decide) rfl, hvalues (by decide) rfl, hvalues (by decide) rfl,
      (Headers.carries_nil_iff _ _).2 (hleft.kept (Or.inr (Or.inr rfl)))⟩
  case unreached =>
    obtain ⟨hcalled, hleft, herrors⟩ := hleaves (by decide : 0 < unreached.calls.length)
    have hrelayed := hrelays (.failed (.forwarding "connection refused"))
    generalize ofReply (.failed (.forwarding "connection refused")) = answer
      at hleft herrors hrelayed
    cases hrelayed with
    | gone hgone => exact absurd (isDisconnect_iff_saysGone.2 hgone) (by decide)
    | failed hpresent htold hstatus hsame htype hothers hlevel hmessage hcause =>
      cases htold
      have hdocument : (Failure.textDocument [("error", "upstream error")]).text =
          "\x7b\"error\":\"upstream error\"\x7d" := by decide
      have hsent := (hbody hleft).body.trans hsame.body
      rw [hdocument] at hsent hsame
      have hlength := hleft.added hopen (hothers _ (by decide)) hsame.streamed
      rw [hsame.body] at hlength
      refine ⟨hcalled, ?_, hleft.status.trans hstatus, hsent,
        htype.of_values_eq (hleft.headers _ (by decide)), hlength⟩
      have htext : (Failure.forwarding "connection refused").message =
          "proxy error: connection refused" := by decide
      rw [htext] at hcause
      rw [herrors, Answer.errors, List.filter_cons_of_pos (by simpa using hlevel)]
      exact congrArg (fun fields ↦ [fields]) hcause
  case gone =>
    obtain ⟨hcalled, hleft, herrors⟩ := hleaves (by decide : 0 < gone.calls.length)
    exact ⟨hcalled, herrors, hleft.status, (hbody hleft).body⟩

end Gateway

end OverlayGateway
