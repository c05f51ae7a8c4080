import OverlayGateway.Proofs.Gateway.Exchange
import OverlayGateway.Proofs.Http.Message
/-!
The answers that the gateway gives itself, and what it asks of the outside on the way to an answer:
a token, for a credential whose token stands in a file, and a call of the API server.
-/

set_option autoImplicit false
set_option relaxedAutoImplicit false

namespace OverlayGateway.Gateway

open Http

/-! ### Statuses, headers and bodies -/

/-- Every answer leaves with the status that it was given. -/
theorem status_conclude (request : Request) (caller : String) (answer : Answer)
    (after : List Log.Event) :
    (conclude request caller answer after).response.status = answer.response.status := by
  unfold conclude
  dsimp only
  split
  · exact Response.status_finished answer.response request.method
  · rfl

/-- What is answered on a proxied path leaves as a route's answers do. -/
theorem response_conclude_of_admits {request : Request} (hadmitted : admits request.path = true)
    (caller : String) (answer : Answer) (after : List Log.Event) :
    (conclude request caller answer after).response =
      answer.response.finished request.method := by
  unfold conclude
  rw [hadmitted]
  rfl

/-- A call that failed is answered with the status of its failure, or with 499 where the failure
only says that the caller went away. -/
theorem status_failed (failure : Failure) :
    (failed failure).response.status =
      if failure.isDisconnect then 499 else failure.status := by
  unfold failed
  split <;> rfl

/-- Whether a page of any origin may read what has these headers. -/
structure AllowsOrigins (headers : Headers) : Prop where
  origin : headers.Carries .accessControlAllowOrigin ["*"]
  methods : headers.Carries .accessControlAllowMethods ["GET, POST, PUT, DELETE, OPTIONS"]
  headers : headers.Carries .accessControlAllowHeaders ["Content-Type, Authorization"]

theorem allowsOrigins_allowOrigins (headers : Headers) : AllowsOrigins (allowOrigins headers) := by
  have hmethods : HeaderName.accessControlAllowMethods ≠ .accessControlAllowHeaders := by decide
  have horigin : HeaderName.accessControlAllowOrigin ≠ .accessControlAllowMethods ∧
      HeaderName.accessControlAllowOrigin ≠ .accessControlAllowHeaders := by decide
  unfold allowOrigins
  constructor
  · simp [Headers.Carries, Headers.values_insert, horigin]
  · simp [Headers.Carries, Headers.values_insert, hmethods]
  · simp [Headers.Carries]

theorem AllowsOrigins.of_values_eq {before after : Headers} (h : AllowsOrigins before)
    (hvalues : ∀ name : HeaderName, name ≠ .contentLength →
      after.values name = before.values name) :
    AllowsOrigins after where
  origin := h.origin.of_values_eq (hvalues _ (by decide))
  methods := h.methods.of_values_eq (hvalues _ (by decide))
  headers := h.headers.of_values_eq (hvalues _ (by decide))

/-- A preflight leaves with the headers that allow every origin and without a body. -/
theorem conclude_preflight {request : Request} (hmethod : request.method = "OPTIONS")
    (caller : String) (after : List Log.Event) :
    AllowsOrigins (conclude request caller { response := preflight } after).response.headers ∧
      (conclude request caller { response := preflight } after).response.body = .empty := by
  have hfinished : Response.finished preflight request.method = preflight.withContentLength := by
    rw [hmethod]
    rfl
  have hheaders : AllowsOrigins preflight.headers := allowsOrigins_allowOrigins {}
  unfold conclude
  dsimp only
  split
  · rw [hfinished]
    exact ⟨hheaders.of_values_eq fun name hname ↦ preflight.values_withContentLength_of_ne hname,
      preflight.body_withContentLength⟩
  · exact ⟨hheaders, rfl⟩

/-! ### Tokens that are read -/

/-- What the gateway asks of the outside for one request, each in order. -/
structure Asked where
  tokens : List String := []
  calls : List Call := []

/-- Reads a token and notes its path. -/
def readingNoted (token : String → Except Failure String) : TokenReader (StateM Asked) :=
  fun path ↦ do
    modify fun asked ↦ { asked with tokens := asked.tokens ++ [path] }
    return token path

/-- Calls the API server and notes the call. -/
def callingNoted (reply : Call → Reply) (call : Call) : StateM Asked Reply := do
  modify fun asked ↦ { asked with calls := asked.calls ++ [call] }
  return reply call

/-- Serves one request while everything that is asked of the outside is noted. -/
def observed (gateway : Gateway) (token : String → Except Failure String) (reply : Call → Reply)
    (connection : Option String) (table : MappingTable) (peer : Ip.Socket) (request : Request) :
    Answer × Asked :=
  (gateway.serve (readingNoted token) (callingNoted reply) connection table peer request).run {}

/-- The paths of the tokens that are read for a credential. -/
def tokenPaths : Credential → List String
  | .bearerTokenFile path => [path]
  | .bearerToken _ | .clientCertificate _ | .basic _ _ | .missing => []

/-- The paths of the tokens that are read to authenticate a caller. -/
def authenticationPaths (gateway : Gateway) (table : MappingTable) (caller : Ip.Address)
    (headers : Headers) : List String :=
  if (Impersonation.apply gateway.policy table caller headers).failure.isSome then []
  else tokenPaths gateway.credential

/-- The paths of the tokens that are read for a request. -/
def pathsRead (gateway : Gateway) (table : MappingTable) (caller : Ip.Address)
    (request : Request) : List String :=
  if !admits request.path then []
  else if request.method = "OPTIONS" then []
  else gateway.authenticationPaths table caller request.headers

/-- What is asked once tokens have been read as well. -/
def Asked.reading (asked : Asked) (paths : List String) : Asked :=
  { asked with tokens := asked.tokens ++ paths }

theorem Asked.reading_nil (asked : Asked) : asked.reading [] = asked := by
  rw [reading, List.append_nil]

section Noted

variable (gateway : Gateway) (token : String → Except Failure String) (reply : Call → Reply)
  (table : MappingTable) (asked : Asked)

theorem attaching_noted (credential : Credential) (before : Headers) :
    ((credential.attaching (readingNoted token)).run.run before).run asked =
      (Credential.settled before (credential.attached token before),
        asked.reading (tokenPaths credential)) := by
  cases credential with
  | bearerTokenFile path =>
    rw [Credential.run_attaching_bearerTokenFile]
    rfl
  | _ =>
    rw [Credential.run_attaching_of_ne _ _ (by simp) token, tokenPaths, Asked.reading_nil]
    rfl

theorem attach_noted (credential : Credential) (headers : Headers) :
    (credential.attach (readingNoted token) headers).run asked =
      (credential.attached token headers, asked.reading (tokenPaths credential)) := by
  rw [Credential.attach_eq, StateT.run_map, attaching_noted]
  exact congrArg (·, asked.reading (tokenPaths credential)) (Credential.map_settled headers _)

theorem authenticate_noted (caller : Ip.Address) (headers : Headers) :
    (gateway.authenticate (readingNoted token) table caller headers).run asked =
      (gateway.authenticated token table caller headers,
        asked.reading (gateway.authenticationPaths table caller headers)) := by
  unfold authenticate authenticated authenticationPaths
  cases hfailure : (Impersonation.apply gateway.policy table caller headers).failure with
  | some failure =>
    simp only [hfailure, Option.isSome_some, if_true, Asked.reading_nil]
    rfl
  | none =>
    simp only [hfailure, Option.isSome_none, Bool.false_eq_true, if_false]
    exact attach_noted token asked gateway.credential _

theorem plan_noted (caller : Ip.Address) (request : Request) :
    (gateway.plan (readingNoted token) table caller request).run asked =
      (gateway.planned token table caller request,
        asked.reading (gateway.pathsRead table caller request)) := by
  unfold plan planned pathsRead
  split
  · rw [Asked.reading_nil]
    rfl
  · split
    · rw [Asked.reading_nil]
      rfl
    · rw [StateT.run_bind, authenticate_noted]
      cases gateway.authenticated token table caller request.headers with
      | error failure => rfl
      | ok headers =>
        refine (pure_bind (m := Id) _ _).trans ?_
        dsimp only
        cases gateway.call caller { request with headers } <;> rfl

/-- Watching what is asked for changes nothing, and shows the calls of the exchange. -/
theorem observed_eq (connection : Option String) (peer : Ip.Socket) (request : Request) :
    gateway.observed token reply connection table peer request =
      ((gateway.exchange token reply connection table peer request).answer,
        { tokens := gateway.pathsRead table peer.address.canonical request
          calls := (gateway.exchange token reply connection table peer request).calls }) := by
  unfold observed serve
  dsimp only
  rw [StateT.run_bind, plan_noted]
  cases h : gateway.planned token table peer.address.canonical request with
  | answer answer =>
    rw [exchange_of_answer h]
    rfl
  | call call =>
    rw [exchange_of_call h]
    rfl

end Noted

end OverlayGateway.Gateway
