import OverlayGateway.Proofs.Failure
import OverlayGateway.Proofs.Gateway.Decision
/-!
What the answer to a failed request gives away. A failure has a kind and texts. Where the kind is
one that is answered with a fixed sentence, two runs that fail in the same kind are answered alike,
byte for byte, whatever else differs between them. The texts of a failure on the way to the API
server count for one thing: whether they say that the caller went away.
-/

set_option autoImplicit false
set_option relaxedAutoImplicit false

namespace OverlayGateway

namespace Gateway

open Http

/-! ### Runs that fail -/

/-- One request, with everything that it is served with. -/
structure Run where
  gateway : Gateway
  token : String → Except Failure String
  reply : Call → Reply
  connection : Option String
  table : MappingTable
  peer : Ip.Socket
  request : Request

namespace Run

variable (run : Run)

def caller : Ip.Address := run.peer.address.canonical

def response : Response :=
  (run.gateway.exchange run.token run.reply run.connection run.table run.peer
    run.request).answer.response

def authenticated : Except Failure Headers :=
  run.gateway.authenticated run.token run.table run.caller run.request.headers

def planned : Plan := run.gateway.planned run.token run.table run.caller run.request

/-- How far a run comes before it fails. -/
inductive Stage where
  /-- The caller is presented and authenticated. -/
  | authenticating
  /-- The body is read and the API server is called. -/
  | forwarding
  deriving DecidableEq, Repr

/-- Where and why a run fails. -/
inductive Fails : Stage → Failure → Prop
  | unauthenticated {failure : Failure} (hrouted : Routed run.request)
      (hfailed : run.authenticated = .error failure) : Fails .authenticating failure
  | unread {headers : Headers} {failure : Failure} (hrouted : Routed run.request)
      (hheaders : run.authenticated = .ok headers)
      (hfailed : run.gateway.call run.caller { run.request with headers } = .error failure) :
      Fails .forwarding failure
  | unanswered {call : Call} {failure : Failure} (hcall : run.planned = .call call)
      (hfailed : run.reply call = .failed failure) : Fails .forwarding failure

/-- Whether a failure is that the caller went away: one on the way to the API server whose text
says so. -/
def Gone (stage : Stage) (failure : Failure) : Prop :=
  stage = .forwarding ∧
    ∃ marker ∈ Failure.disconnectMarkers, marker.toList <:+: failure.message.toList

/-- What a failure at a stage is answered with. -/
def Stage.answer : Stage → Failure → Response
  | .authenticating, failure => failure.answer
  | .forwarding, failure => (failed failure).response

theorem answer_of_gone {stage : Stage} {failure : Failure} (h : Gone stage failure) :
    stage.answer failure = callerGone := by
  obtain ⟨rfl, hmarker⟩ := h
  rw [Stage.answer, failed, if_pos (Failure.isDisconnect_iff.2 hmarker)]

theorem answer_of_not_gone {stage : Stage} {failure : Failure} (h : ¬ Gone stage failure) :
    stage.answer failure = failure.answer := by
  cases stage with
  | authenticating => rfl
  | forwarding =>
    have hpresent : ¬ failure.isDisconnect = true := fun hgone ↦
      h ⟨rfl, Failure.isDisconnect_iff.1 hgone⟩
    rw [Stage.answer, failed, if_neg hpresent]

variable {run} {stage : Stage} {failure : Failure}

theorem response_conclude (hrouted : Routed run.request) (answer : Answer)
    (after : List Log.Event) :
    (conclude run.request run.caller.text answer after).response =
      answer.response.finished run.request.method :=
  response_conclude_of_admits (admits_iff.2 hrouted.proxied) _ _ _

/-- The failure and its stage decide the answer, up to what the method makes of it. -/
theorem response_of_fails (h : run.Fails stage failure) :
    run.response = (stage.answer failure).finished run.request.method := by
  unfold response
  cases h with
  | unauthenticated hrouted hfailed =>
    rw [exchange_of_answer (planned_of_unauthenticated hrouted hfailed)]
    exact response_conclude hrouted _ _
  | @unread headers _ hrouted hheaders hfailed =>
    have hplanned : run.planned = .answer (failed failure) := by
      unfold authenticated at hheaders
      rw [planned, planned_of_routed hrouted, hheaders]
      dsimp only
      rw [hfailed]
      rfl
    rw [exchange_of_answer hplanned]
    exact response_conclude hrouted _ _
  | unanswered hcall hfailed =>
    have hrouted : Routed run.request := by
      obtain ⟨hadmitted, hmethod, _⟩ := planned_eq_call_iff.1 hcall
      exact ⟨admits_iff.1 hadmitted, hmethod⟩
    rw [exchange_of_call hcall, hfailed]
    exact response_conclude hrouted _ _

/-- A run that gets past the preflight fails, or the API server answers. -/
theorem fails_or_answered (hrouted : Routed run.request) :
    (∃ stage failure, run.Fails stage failure) ∨
      ∃ call, run.planned = .call call ∧ ∀ failure, run.reply call ≠ .failed failure := by
  cases hheaders : run.authenticated with
  | error failure => exact Or.inl ⟨_, _, .unauthenticated hrouted hheaders⟩
  | ok headers =>
    cases hcall : run.gateway.call run.caller { run.request with headers } with
    | error failure => exact Or.inl ⟨_, _, .unread hrouted hheaders hcall⟩
    | ok call =>
      have hplanned : run.planned = .call call := planned_eq_call_iff.2
        ⟨admits_iff.2 hrouted.proxied, hrouted.method_ne, headers, hheaders, hcall⟩
      by_cases hreply : ∃ failure, run.reply call = .failed failure
      · obtain ⟨failure, hfailed⟩ := hreply
        exact Or.inl ⟨_, _, .unanswered hplanned hfailed⟩
      · exact Or.inr ⟨call, hplanned, fun failure hfailed ↦ hreply ⟨failure, hfailed⟩⟩

/-- A caller is not authenticated for one of four reasons; only the token reader's is a failure that
comes from outside. -/
theorem reason_of_unauthenticated (h : run.Fails .authenticating failure) :
    (∃ name, run.gateway.policy.mode = .unrecognized name ∧ failure = .invalidMode name) ∨
      failure = Impersonation.unsendable ∨ failure = Credential.unauthorized ∨
        ∃ path, run.gateway.credential = .bearerTokenFile path ∧
          run.token path = .error failure := by
  cases h with
  | unauthenticated hrouted hfailed =>
    rcases authenticated_eq_error_iff.1 hfailed with happly | ⟨_, hrefused⟩
    · cases hmode : run.gateway.policy.mode with
      | noAuth => simp [Impersonation.apply, hmode] at happly
      | unrecognized name =>
        rw [Impersonation.failure_apply_of_unrecognized hmode, Option.some_inj] at happly
        exact Or.inl ⟨name, rfl, happly.symm⟩
      | auth =>
        rw [Impersonation.apply_auth hmode] at happly
        exact Or.inr (Or.inl (Impersonation.Draft.failure_setAll_of_some rfl happly))
    · rcases hrefused with ⟨_, _⟩ | ⟨hfile, hread⟩ | ⟨_, _⟩
      · exact Or.inr (Or.inr (Or.inl rfl))
      · exact Or.inr (Or.inr (Or.inr ⟨_, hfile, hread⟩))
      · exact Or.inr (Or.inl rfl)

/-- A request that comes past authentication fails for its body or for the API server's answer. -/
theorem reason_of_unforwarded (h : run.Fails .forwarding failure) :
    failure = bodyTooLong ∨ (∃ cause, failure = bodyUnread cause) ∨
      ∃ call, run.planned = .call call ∧ run.reply call = .failed failure := by
  cases h with
  | unread hrouted hheaders hfailed =>
    rcases readBody_eq_error_iff.1 (call_eq_error_iff.1 hfailed).2 with
      ⟨_, rfl⟩ | ⟨_, cause, _, rfl⟩
    · exact Or.inl rfl
    · exact Or.inr (Or.inl ⟨cause, rfl⟩)
  | unanswered hcall hfailed => exact Or.inr (Or.inr ⟨_, hcall, hfailed⟩)

/-- Two failures that no answer tells apart: the same one twice, or two of a kind that is answered
with a fixed sentence. -/
def Indistinct (first second : Failure) : Prop :=
  first = second ∨ first.kind = second.kind ∧ first.kind.isSilent = true

theorem Indistinct.answer_eq {first second : Failure} (h : Indistinct first second) :
    first.answer = second.answer := by
  rcases h with rfl | ⟨hkind, hsilent⟩
  · rfl
  · exact Failure.answer_congr hkind hsilent

end Run

open Run

/-- Every request that gets past the preflight is answered by the API server or fails for a known
reason. Two runs with the same method are answered alike, byte for byte, if they fail for the same
reason, or in the same kind which is answered with a fixed sentence, and for both or neither the
caller went away. That the caller went away is all that is said where it did. -/
theorem failures_alike :
    (∀ run : Run, Routed run.request →
      (∃ stage failure, run.Fails stage failure) ∨
        ∃ call, run.planned = .call call ∧ ∀ failure, run.reply call ≠ .failed failure) ∧
    (∀ (run : Run) (failure : Failure),
      (run.Fails .authenticating failure →
        (∃ name, run.gateway.policy.mode = .unrecognized name ∧ failure = .invalidMode name) ∨
          failure = Impersonation.unsendable ∨ failure = Credential.unauthorized ∨
            ∃ path, run.gateway.credential = .bearerTokenFile path ∧
              run.token path = .error failure) ∧
      (run.Fails .forwarding failure →
        failure = bodyTooLong ∨ (∃ cause, failure = bodyUnread cause) ∨
          ∃ call, run.planned = .call call ∧ run.reply call = .failed failure)) ∧
    (∀ (one two : Run) (stage stage' : Stage) (first second : Failure),
      one.Fails stage first → two.Fails stage' second → one.request.method = two.request.method →
        (Gone stage first ↔ Gone stage' second) → Indistinct first second →
          one.response = two.response) ∧
    ∀ (run : Run) (stage : Stage) (failure : Failure), run.Fails stage failure →
      Gone stage failure → run.response = callerGone.finished run.request.method := by
  refine ⟨fun _ ↦ fails_or_answered,
    fun run failure ↦ ⟨reason_of_unauthenticated, reason_of_unforwarded⟩, ?alike, ?gone⟩
  case alike =>
    intro one two stage stage' first second hfirst hsecond hmethod hgone hindistinct
    have hanswer : stage.answer first = stage'.answer second := by
      by_cases h : Gone stage first
      · rw [answer_of_gone h, answer_of_gone (hgone.1 h)]
      · rw [answer_of_not_gone h, answer_of_not_gone (mt hgone.2 h), hindistinct.answer_eq]
    rw [response_of_fails hfirst, response_of_fails hsecond, hanswer, hmethod]
  case gone =>
    intro run stage failure hfails hgone
    rw [response_of_fails hfails, answer_of_gone hgone]

/-- A run in which the API server cannot be called. -/
def Run.unreached (failure : Failure) : Run where
  gateway := sample
  token := fun _ ↦ .ok ""
  reply := fun _ ↦ .failed failure
  connection := none
  table := .empty
  peer := samplePeer
  request := { method := "GET", path := "/api" }

theorem presentable_sample : Presentable sample.policy .empty samplePeer.address.canonical :=
  Or.inr ⟨rfl, sendable_of_visible (by decide), sendable_of_visible (by decide)⟩

theorem Run.fails_unreached (failure : Failure) :
    (unreached failure).Fails .forwarding failure := by
  have hforwards : (unreached failure).gateway.Forwards (unreached failure).token
      (unreached failure).table (unreached failure).caller (unreached failure).request := {
    proxied := admits_iff.1 (by decide : admits "/api" = true)
    method_ne := (by decide : "GET" ≠ "OPTIONS")
    presentable := presentable_sample
    attachable := sendable_of_visible (by decide)
    body := Or.inr ⟨Nat.zero_le maxBody, rfl⟩ }
  obtain ⟨call, hcall⟩ := exists_planned_of_forwards hforwards
  exact .unanswered hcall rfl

/-- A run with a token file, in a given state of the files. -/
def Run.withTokenFile (files : FileReader Id) : Run :=
  { unreached (.forwarding "") with
    gateway := { sample with credential := .bearerTokenFile "token" }
    token := tokenIn files }

theorem Run.fails_withTokenFile (files : FileReader Id) {failure : Failure}
    (h : tokenIn files "token" = .error failure) :
    (withTokenFile files).Fails .authenticating failure := by
  have hrouted : Routed (withTokenFile files).request :=
    ⟨admits_iff.1 (by decide : admits "/api" = true), (by decide : "GET" ≠ "OPTIONS")⟩
  exact .unauthenticated hrouted
    (authenticated_eq_error_iff.2 (Or.inr ⟨presentable_sample, .unread rfl h⟩))

theorem Run.body_withTokenFile (files : FileReader Id) {cause : String}
    (h : tokenIn files "token" = .error (.internal cause)) :
    (withTokenFile files).response.body =
      (String.ofList (Json.Value.object [("error", .string cause)]).chars).toUTF8 := by
  rw [response_of_fails (fails_withTokenFile files h)]
  refine (Response.body_withContentLength (Failure.internal cause).answer).trans ?_
  rw [Failure.answer, Response.json, Failure.document, Json.Value.sorted_singleton]
  rfl

/-- Two causes for which the API server is not reached. -/
theorem failures_alike_sample :
    (Run.unreached (.forwarding "connection refused")).response =
      (Run.unreached (.forwarding "timed out")).response := by
  have hpresent {failure : Failure} (h : failure.isDisconnect = false) :
      ¬ Gone .forwarding failure := by
    intro hgone
    rw [Failure.isDisconnect_iff.2 hgone.2] at h
    cases h
  exact failures_alike.2.2.1 _ _ .forwarding .forwarding _ _ (Run.fails_unreached _)
    (Run.fails_unreached _) rfl (iff_of_false (hpresent (by decide)) (hpresent (by decide)))
    (Or.inr ⟨rfl, rfl⟩)

/-- Texts that do make a difference: one that says that the caller went away, and the cause for
which a token file cannot be read. -/
theorem failures_told_apart :
    (∃ first second : Failure, first.kind = second.kind ∧
      (Run.unreached first).Fails .forwarding first ∧
      (Run.unreached second).Fails .forwarding second ∧
      (Run.unreached first).response.status ≠ (Run.unreached second).response.status) ∧
    ∃ (files files' : FileReader Id) (first second : Failure), first.kind = second.kind ∧
      (Run.withTokenFile files).Fails .authenticating first ∧
      (Run.withTokenFile files').Fails .authenticating second ∧
      (Run.withTokenFile files).response.body ≠ (Run.withTokenFile files').response.body := by
  constructor
  · refine ⟨.forwarding "connection refused", .forwarding "client disconnected", rfl,
      Run.fails_unreached _, Run.fails_unreached _, ?_⟩
    rw [response_of_fails (Run.fails_unreached _), response_of_fails (Run.fails_unreached _),
      Response.status_finished, Response.status_finished]
    decide
  · have hmissing : tokenIn (fun _ ↦ .error .notFound) "token" = .error (.internal
        "failed to read token file token: No such file or directory (os error 2)") := rfl
    have hbinary : tokenIn (fun _ ↦ .ok [0xFF]) "token" = .error (.internal
        "failed to read token file token: stream did not contain valid UTF-8") := rfl
    refine ⟨_, _, _, _, ?kind, Run.fails_withTokenFile _ hmissing,
      Run.fails_withTokenFile _ hbinary, ?body⟩
    case kind => rfl
    case body =>
      rw [Run.body_withTokenFile _ hmissing, Run.body_withTokenFile _ hbinary]
      intro hsame
      have hchars := congrArg String.toList (String.toByteArray_inj.1 hsame)
      rw [String.toList_ofList, String.toList_ofList] at hchars
      exact absurd hchars (by decide)

end Gateway

end OverlayGateway
