import OverlayGateway.Proofs.Gateway.Answers
/-!
Which requests are forwarded, and how the others are answered. A request passes the layers of the
gateway one after the other: its path, the preflight, the presentation of its caller, the
credential and its body. It is forwarded, once, if nothing stops it; otherwise the first obstacle
that it meets decides the answer, whatever stands behind it.
-/

set_option autoImplicit false
set_option relaxedAutoImplicit false

namespace OverlayGateway.Gateway

open Http

/-! ### Paths and upgrades -/

/-- The paths that are proxied: four of them, and whatever is not empty below two of those. -/
def Proxied (path : String) : Prop :=
  path ∈ ["/api", "/apis", "/version", "/metrics"] ∨
    ∃ rest, rest ≠ "" ∧ (path = "/api/" ++ rest ∨ path = "/apis/" ++ rest)

/-- A path goes on behind a root if it starts with the root and is longer. -/
theorem isBelow_iff {root path : String} :
    (root.toList.isPrefixOf path.toList && root.length < path.length) = true ↔
      ∃ rest, rest ≠ "" ∧ path = root ++ rest := by
  rw [Bool.and_eq_true, List.isPrefixOf_iff_prefix, decide_eq_true_eq]
  constructor
  · rintro ⟨⟨rest, hrest⟩, hlonger⟩
    have hpath : path = root ++ String.ofList rest := by
      rw [← String.toList_inj, String.toList_append, String.toList_ofList, hrest]
    refine ⟨String.ofList rest, ?_, hpath⟩
    intro hempty
    rw [hempty, String.append_empty] at hpath
    exact absurd hlonger (by simp [hpath])
  · rintro ⟨rest, hrest, rfl⟩
    have hpositive : 0 < rest.length := by
      rw [← String.length_toList]
      exact List.length_pos_iff.2 (by simpa using hrest)
    refine ⟨⟨rest.toList, by rw [String.toList_append]⟩, ?_⟩
    rw [String.length_append]
    omega

theorem admits_iff {path : String} : admits path = true ↔ Proxied path := by
  unfold admits Proxied
  rw [Bool.or_eq_true, List.contains_iff_mem, List.any_cons, List.any_cons, List.any_nil,
    Bool.or_false, Bool.or_eq_true, isBelow_iff, isBelow_iff]
  grind

/-- Whether a caller asks to switch protocols: with an `Upgrade` header, and with a readable
`Connection` value that has the token in any case of its letters. -/
def AsksUpgrade (headers : Headers) : Prop :=
  headers.values .upgrade ≠ [] ∧
    ∃ value ∈ headers.values .connection, ∃ text, value.readable? = some text ∧
      ∃ piece ∈ Text.split ',' text, Text.lower (Text.trim piece) = "upgrade"

theorem isUpgrade_iff {headers : Headers} :
    Forwarding.isUpgrade headers = true ↔ AsksUpgrade headers := by
  unfold Forwarding.isUpgrade AsksUpgrade Forwarding.connectionTokens
  rw [Bool.and_eq_true, Headers.contains_iff]
  refine and_congr_right fun _ ↦ ?_
  simp only [List.any_eq_true, List.mem_flatMap, List.mem_filterMap, List.mem_map,
    decide_eq_true_eq]
  grind

/-! ### Layers -/

/-- A request that comes as far as its caller's presentation. -/
structure Routed (request : Request) : Prop where
  proxied : Proxied request.path
  method_ne : request.method ≠ "OPTIONS"

/-- Whether a caller can be presented: not at all, or with an identity that headers can hold. -/
def Presentable (policy : Policy) (table : MappingTable) (caller : Ip.Address) : Prop :=
  policy.mode = .noAuth ∨
    policy.mode = .auth ∧
      Impersonation.SendableIdentity (Impersonation.resolve policy table caller.text).identity

structure Presented (gateway : Gateway) (table : MappingTable) (caller : Ip.Address)
    (request : Request) : Prop extends Routed request where
  presentable : Presentable gateway.policy table caller

structure Authenticated (gateway : Gateway) (token : String → Except Failure String)
    (table : MappingTable) (caller : Ip.Address) (request : Request) : Prop
    extends gateway.Presented table caller request where
  attachable : gateway.credential.Attachable token request.headers

/-- A request that passes all layers. -/
structure Forwards (gateway : Gateway) (token : String → Except Failure String)
    (table : MappingTable) (caller : Ip.Address) (request : Request) : Prop
    extends gateway.Authenticated token table caller request where
  body : AsksUpgrade request.headers ∨
    request.body.size ≤ maxBody ∧ request.bodyFault = none

section Layers

variable {gateway : Gateway} {token : String → Except Failure String} {table : MappingTable}
  {caller : Ip.Address} {request : Request} {failure : Failure}

/-- Presenting a caller leaves what the credential looks at as it is. -/
theorem refused_apply_iff {headers : Headers} :
    gateway.credential.Refused token
        (Impersonation.apply gateway.policy table caller headers).headers failure ↔
      gateway.credential.Refused token headers failure := by
  have hvalues : (Impersonation.apply gateway.policy table caller headers).headers.values
      .authorization = headers.values .authorization :=
    Impersonation.values_apply_of_not_impersonation _ _ _ _ (by decide)
  constructor
  · rintro (⟨hmissing, hnone⟩ | ⟨hfile, hread⟩ | ⟨hbears, hsecret⟩)
    · exact .missing hmissing (hvalues ▸ hnone)
    · exact .unread hfile hread
    · exact .unsendable hbears hsecret
  · rintro (⟨hmissing, hnone⟩ | ⟨hfile, hread⟩ | ⟨hbears, hsecret⟩)
    · exact .missing hmissing (hvalues.trans hnone)
    · exact .unread hfile hread
    · exact .unsendable hbears hsecret

/-- Authentication fails for the first of its two reasons. -/
theorem authenticated_eq_error_iff {headers : Headers} :
    gateway.authenticated token table caller headers = .error failure ↔
      (Impersonation.apply gateway.policy table caller headers).failure = some failure ∨
        Presentable gateway.policy table caller ∧
          gateway.credential.Refused token headers failure := by
  have hpresentable : (Impersonation.apply gateway.policy table caller headers).failure = none ↔
      Presentable gateway.policy table caller := Impersonation.failure_apply_eq_none_iff
  have hrefused : gateway.credential.attached token
        (Impersonation.apply gateway.policy table caller headers).headers = .error failure ↔
      gateway.credential.Refused token headers failure :=
    Credential.attached_eq_error_iff.trans refused_apply_iff
  rw [← hpresentable, ← hrefused]
  unfold authenticated
  cases hfailure : (Impersonation.apply gateway.policy table caller headers).failure with
  | some first => simp [hfailure]
  | none => simp [hfailure]

theorem exists_authenticated_iff {headers : Headers} :
    (∃ after, gateway.authenticated token table caller headers = .ok after) ↔
      Presentable gateway.policy table caller ∧ gateway.credential.Attachable token headers := by
  have hpresentable : (Impersonation.apply gateway.policy table caller headers).failure = none ↔
      Presentable gateway.policy table caller := Impersonation.failure_apply_eq_none_iff
  simp only [authenticated_eq_ok_iff, exists_and_left, Credential.exists_attached_iff,
    Credential.attachable_iff, refused_apply_iff, hpresentable]

/-- A request fails on its way to a call only for its body, and only if it is no upgrade. -/
theorem call_eq_error_iff :
    gateway.call caller request = .error failure ↔
      ¬ AsksUpgrade request.headers ∧ readBody request = .error failure := by
  rw [← isUpgrade_iff]
  unfold Gateway.call
  cases Forwarding.isUpgrade request.headers with
  | true => simp
  | false => cases readBody request <;> simp [Except.map]

theorem readBody_eq_error_iff :
    readBody request = .error failure ↔
      maxBody < request.body.size ∧ failure = bodyTooLong ∨
        request.body.size ≤ maxBody ∧
          ∃ cause, request.bodyFault = some cause ∧ failure = bodyUnread cause := by
  unfold readBody
  by_cases hlong : maxBody < request.body.size
  · simp [hlong, Nat.not_le.2 hlong, eq_comm]
  · cases hfault : request.bodyFault <;> simp [hlong, Nat.not_lt.1 hlong, eq_comm]

/-! ### Obstacles -/

/-- What keeps a request from being forwarded. -/
inductive Obstacle where
  /-- A path that is not proxied. -/
  | unrouted
  /-- A preflight, which the gateway answers itself. -/
  | preflight
  | unknownMode (name : String)
  | unsendableIdentity
  /-- No credential, neither the gateway's nor the caller's. -/
  | noCredential
  /-- A token that the token reader fails to read. -/
  | unreadableToken (failure : Failure)
  | unsendableToken
  | longBody
  /-- A body that breaks off. -/
  | brokenBody (cause : String)

/-- The answer to a request with a path, given the obstacle that it meets. -/
def Obstacle.answer (path : String) : Obstacle → Answer
  | .unrouted => { response := .unrouted path }
  | .preflight => { response := Gateway.preflight }
  | .unknownMode name => { response := (Failure.invalidMode name).answer }
  | .unsendableIdentity | .unsendableToken => { response := Impersonation.unsendable.answer }
  | .noCredential => { response := Credential.unauthorized.answer }
  | .unreadableToken failure => { response := failure.answer }
  | .longBody => failed bodyTooLong
  | .brokenBody cause => failed (bodyUnread cause)

def Obstacle.status : Obstacle → Nat
  | .unrouted => 404
  | .preflight => 200
  | .unknownMode _ | .unsendableIdentity | .unsendableToken => 500
  | .noCredential => 401
  | .unreadableToken failure => failure.status
  | .longBody => 502
  | .brokenBody cause => if (bodyUnread cause).isDisconnect then 499 else 502

theorem Obstacle.status_answer (obstacle : Obstacle) (path : String) :
    (obstacle.answer path).response.status = obstacle.status := by
  cases obstacle with
  | unrouted => exact Response.status_unrouted path
  | longBody =>
    have hcause : bodyTooLong.isDisconnect = false := by decide
    rw [answer, status_failed, hcause]
    rfl
  | brokenBody cause => exact status_failed (bodyUnread cause)
  | preflight => rfl
  | unknownMode name => rfl
  | unsendableIdentity => rfl
  | noCredential => rfl
  | unreadableToken failure => rfl
  | unsendableToken => rfl

/-- The first obstacle on the way of a request, which passed the layers in front of it. -/
inductive Meets (gateway : Gateway) (token : String → Except Failure String)
    (table : MappingTable) (caller : Ip.Address) (request : Request) : Obstacle → Prop
  | unrouted (hpath : ¬ Proxied request.path) : Meets gateway token table caller request .unrouted
  | preflight (hpath : Proxied request.path) (hmethod : request.method = "OPTIONS") :
      Meets gateway token table caller request .preflight
  | unknownMode {name : String} (hrouted : Routed request)
      (hmode : gateway.policy.mode = .unrecognized name) :
      Meets gateway token table caller request (.unknownMode name)
  | unsendableIdentity (hrouted : Routed request) (hmode : gateway.policy.mode = .auth)
      (hidentity : ¬ Impersonation.SendableIdentity
        (Impersonation.resolve gateway.policy table caller.text).identity) :
      Meets gateway token table caller request .unsendableIdentity
  | noCredential (hpresented : gateway.Presented table caller request)
      (hmissing : gateway.credential = .missing)
      (hnone : request.headers.values .authorization = []) :
      Meets gateway token table caller request .noCredential
  | unreadableToken {path : String} {failure : Failure}
      (hpresented : gateway.Presented table caller request)
      (hfile : gateway.credential = .bearerTokenFile path) (hread : token path = .error failure) :
      Meets gateway token table caller request (.unreadableToken failure)
  | unsendableToken {secret : String} (hpresented : gateway.Presented table caller request)
      (hbears : gateway.credential.Bears token secret) (hsecret : ¬ Sendable secret) :
      Meets gateway token table caller request .unsendableToken
  | longBody (hauthenticated : gateway.Authenticated token table caller request)
      (hupgrade : ¬ AsksUpgrade request.headers) (hlong : maxBody < request.body.size) :
      Meets gateway token table caller request .longBody
  | brokenBody {cause : String} (hauthenticated : gateway.Authenticated token table caller request)
      (hupgrade : ¬ AsksUpgrade request.headers) (hshort : request.body.size ≤ maxBody)
      (hbroken : request.bodyFault = some cause) :
      Meets gateway token table caller request (.brokenBody cause)

theorem planned_of_routed (hrouted : Routed request) :
    gateway.planned token table caller request =
      match gateway.authenticated token table caller request.headers with
      | .error failure => .answer { response := failure.answer }
      | .ok headers => .ofAttempt (gateway.call caller { request with headers }) := by
  rw [planned, admits_iff.2 hrouted.proxied, if_neg hrouted.method_ne]
  rfl

theorem planned_of_unauthenticated (hrouted : Routed request)
    (herror : gateway.authenticated token table caller request.headers = .error failure) :
    gateway.planned token table caller request = .answer { response := failure.answer } := by
  rw [planned_of_routed hrouted, herror]

theorem planned_of_refused (hpresented : gateway.Presented table caller request)
    (hrefused : gateway.credential.Refused token request.headers failure) :
    gateway.planned token table caller request = .answer { response := failure.answer } :=
  planned_of_unauthenticated hpresented.toRouted
    (authenticated_eq_error_iff.2 (Or.inr ⟨hpresented.presentable, hrefused⟩))

theorem planned_of_unread (hauthenticated : gateway.Authenticated token table caller request)
    (hupgrade : ¬ AsksUpgrade request.headers) (hbody : readBody request = .error failure) :
    gateway.planned token table caller request = .answer (failed failure) := by
  obtain ⟨headers, hheaders⟩ := exists_authenticated_iff.2
    ⟨hauthenticated.presentable, hauthenticated.attachable⟩
  have hcall : gateway.call caller { request with headers } = .error failure := by
    refine call_eq_error_iff.2 ⟨?_, hbody⟩
    rw [← isUpgrade_iff, isUpgrade_authenticated hheaders, isUpgrade_iff]
    exact hupgrade
  rw [planned_of_routed hauthenticated.toRouted, hheaders]
  dsimp only
  rw [hcall]
  rfl

/-- The obstacle that a request meets decides its answer as a whole. -/
theorem planned_of_meets {obstacle : Obstacle}
    (h : gateway.Meets token table caller request obstacle) :
    gateway.planned token table caller request = .answer (obstacle.answer request.path) := by
  cases h with
  | unrouted hpath =>
    rw [planned, Bool.eq_false_iff.2 (mt admits_iff.1 hpath)]
    rfl
  | preflight hpath hmethod =>
    rw [planned, admits_iff.2 hpath, if_pos hmethod]
    rfl
  | unknownMode hrouted hmode =>
    exact planned_of_unauthenticated hrouted (authenticated_eq_error_iff.2 (Or.inl
      (Impersonation.failure_apply_of_unrecognized hmode table caller request.headers)))
  | unsendableIdentity hrouted hmode hidentity =>
    exact planned_of_unauthenticated hrouted (authenticated_eq_error_iff.2 (Or.inl
      (Impersonation.failure_apply_of_unsendable hmode hidentity request.headers)))
  | noCredential hpresented hmissing hnone =>
    exact planned_of_refused hpresented (.missing hmissing hnone)
  | unreadableToken hpresented hfile hread =>
    exact planned_of_refused hpresented (.unread hfile hread)
  | unsendableToken hpresented hbears hsecret =>
    exact planned_of_refused hpresented (.unsendable hbears hsecret)
  | longBody hauthenticated hupgrade hlong =>
    exact planned_of_unread hauthenticated hupgrade
      (readBody_eq_error_iff.2 (Or.inl ⟨hlong, rfl⟩))
  | brokenBody hauthenticated hupgrade hshort hbroken =>
    exact planned_of_unread hauthenticated hupgrade
      (readBody_eq_error_iff.2 (Or.inr ⟨hshort, _, hbroken, rfl⟩))

/-- A request that passes all layers becomes a call. -/
theorem exists_planned_of_forwards (h : gateway.Forwards token table caller request) :
    ∃ call, gateway.planned token table caller request = .call call := by
  obtain ⟨headers, hheaders⟩ := exists_authenticated_iff.2 ⟨h.presentable, h.attachable⟩
  cases hcall : gateway.call caller { request with headers } with
  | ok call =>
    exact ⟨call, planned_eq_call_iff.2
      ⟨admits_iff.2 h.proxied, h.method_ne, headers, hheaders, hcall⟩⟩
  | error failure =>
    obtain ⟨hupgrade, hbody⟩ := call_eq_error_iff.1 hcall
    rw [← isUpgrade_iff, isUpgrade_authenticated hheaders, isUpgrade_iff] at hupgrade
    rcases h.body with hasked | ⟨hshort, hwhole⟩
    · exact absurd hasked hupgrade
    · have hread : readBody { request with headers } = .ok request.body :=
        readBody_eq_ok_iff.2 ⟨rfl, hshort, hwhole⟩
      rw [hread] at hbody
      cases hbody

/-- A request that is not forwarded meets an obstacle. -/
theorem exists_meets (h : ¬ gateway.Forwards token table caller request) :
    ∃ obstacle, gateway.Meets token table caller request obstacle := by
  by_cases hpath : Proxied request.path
  case neg => exact ⟨_, .unrouted hpath⟩
  by_cases hmethod : request.method = "OPTIONS"
  case pos => exact ⟨_, .preflight hpath hmethod⟩
  have hrouted : Routed request := ⟨hpath, hmethod⟩
  by_cases hpresentable : Presentable gateway.policy table caller
  case neg =>
    cases hmode : gateway.policy.mode with
    | auth =>
      exact ⟨_, .unsendableIdentity hrouted hmode fun hidentity ↦
        hpresentable (Or.inr ⟨hmode, hidentity⟩)⟩
    | noAuth => exact absurd (Or.inl hmode) hpresentable
    | unrecognized name => exact ⟨_, .unknownMode hrouted hmode⟩
  have hpresented : gateway.Presented table caller request := ⟨hrouted, hpresentable⟩
  by_cases hattachable : gateway.credential.Attachable token request.headers
  case neg =>
    rw [Credential.attachable_iff, Classical.not_forall] at hattachable
    obtain ⟨failure, hrefused⟩ := hattachable
    rcases Classical.not_not.1 hrefused with ⟨hmissing, hnone⟩ | ⟨hfile, hread⟩ | ⟨hbears, hsecret⟩
    · exact ⟨_, .noCredential hpresented hmissing hnone⟩
    · exact ⟨_, .unreadableToken hpresented hfile hread⟩
    · exact ⟨_, .unsendableToken hpresented hbears hsecret⟩
  have hauthenticated : gateway.Authenticated token table caller request :=
    ⟨hpresented, hattachable⟩
  have hupgrade : ¬ AsksUpgrade request.headers := fun hasked ↦ h ⟨hauthenticated, Or.inl hasked⟩
  by_cases hlong : maxBody < request.body.size
  case pos => exact ⟨_, .longBody hauthenticated hupgrade hlong⟩
  have hshort : request.body.size ≤ maxBody := Nat.not_lt.1 hlong
  cases hbroken : request.bodyFault with
  | none => exact absurd ⟨hauthenticated, Or.inr ⟨hshort, hbroken⟩⟩ h
  | some cause => exact ⟨_, .brokenBody hauthenticated hupgrade hshort hbroken⟩

theorem calls_of_forwards {peer : Ip.Socket}
    (h : gateway.Forwards token table peer.address.canonical request) (reply : Call → Reply)
    (connection : Option String) :
    ∃ call, (gateway.exchange token reply connection table peer request).calls = [call] := by
  obtain ⟨call, hplanned⟩ := exists_planned_of_forwards h
  exact ⟨call, by rw [exchange_of_call hplanned]⟩

theorem calls_of_not_forwards {peer : Ip.Socket}
    (h : ¬ gateway.Forwards token table peer.address.canonical request) (reply : Call → Reply)
    (connection : Option String) :
    (gateway.exchange token reply connection table peer request).calls = [] := by
  obtain ⟨obstacle, hmeets⟩ := exists_meets h
  rw [exchange_of_answer (planned_of_meets hmeets)]

end Layers

/-! ### Decisions -/

/-- The tokens in files, when the files are known. -/
def tokenIn (files : FileReader Id) (path : String) : Except Failure String :=
  (Credential.tokenOfFile files path).run

/-- A token file that cannot be read is a fault of the gateway's own. -/
theorem status_of_tokenIn {files : FileReader Id} {path : String} {failure : Failure}
    (h : tokenIn files path = .error failure) : failure.status = 500 := by
  have hinternal : ∃ cause, failure = .internal cause := by
    unfold tokenIn Credential.tokenOfFile at h
    cases hread : (files path).run with
    | error error =>
      simp only [Id.run_bind, hread] at h
      cases h
      exact ⟨_, rfl⟩
    | ok bytes =>
      simp only [Id.run_bind, hread] at h
      cases htext : Text.ofUtf8? bytes with
      | none =>
        simp only [htext] at h
        cases h
        exact ⟨_, rfl⟩
      | some text =>
        simp only [htext] at h
        cases h
  obtain ⟨cause, rfl⟩ := hinternal
  rfl

theorem pathsRead_of_not_routed {gateway : Gateway} {table : MappingTable} {caller : Ip.Address}
    {request : Request} (h : ¬ Routed request) : gateway.pathsRead table caller request = [] := by
  unfold pathsRead
  split
  · rfl
  · rename_i hpath
    split
    · rfl
    · rename_i hmethod
      exact absurd ⟨admits_iff.1 (by simpa using hpath), hmethod⟩ h

/-- A request makes one call or none. It makes one if and only if it passes all layers, and then an
upgrade is asked for if and only if the caller asks for one. Otherwise it meets an obstacle, which
decides the status of the answer; an unproxied path and a preflight do not even have a token read,
and a preflight is answered without a body. -/
theorem forwarding_decision (gateway : Gateway) (token : String → Except Failure String)
    (reply : Call → Reply) (connection : Option String) (table : MappingTable) (peer : Ip.Socket)
    (request : Request) :
    let caller := peer.address.canonical
    let (answer, asked) := gateway.observed token reply connection table peer request
    asked.calls.length ≤ 1 ∧
    (asked.calls.length = 1 ↔ gateway.Forwards token table caller request) ∧
    (∀ call ∈ asked.calls, call.via = .upgrade ↔ AsksUpgrade request.headers) ∧
    (¬ gateway.Forwards token table caller request →
      ∃ obstacle, gateway.Meets token table caller request obstacle) ∧
    ∀ obstacle, gateway.Meets token table caller request obstacle →
      asked.calls = [] ∧ answer.response.status = obstacle.status ∧
      (∀ files failure, token = tokenIn files → obstacle = .unreadableToken failure →
        answer.response.status = 500) ∧
      (obstacle = .unrouted ∨ obstacle = .preflight → asked.tokens = []) ∧
      (obstacle = .preflight →
        AllowsOrigins answer.response.headers ∧ answer.response.body = .empty) := by
  rw [observed_eq]
  dsimp only
  refine ⟨?atMost, ?exactly, ?via, exists_meets, ?answers⟩
  case atMost =>
    cases hplanned : gateway.planned token table peer.address.canonical request with
    | answer answer => simp [exchange_of_answer hplanned]
    | call call => simp [exchange_of_call hplanned]
  case exactly =>
    constructor
    · intro hone
      refine Classical.byContradiction fun hforwards ↦ ?_
      obtain ⟨obstacle, hmeets⟩ := exists_meets hforwards
      rw [exchange_of_answer (planned_of_meets hmeets)] at hone
      cases hone
    · intro hforwards
      obtain ⟨call, hplanned⟩ := exists_planned_of_forwards hforwards
      rw [exchange_of_call hplanned]
      rfl
  case via =>
    intro call hcall
    rw [← isUpgrade_iff]
    rcases (became_of_mem_calls hcall).body with ⟨hupgrade, hvia, _⟩ | ⟨hsend, hvia, _⟩
    · exact iff_of_true hvia hupgrade
    · rw [hvia, hsend]
      decide
  case answers =>
    intro obstacle hmeets
    have hstatus (files : FileReader Id) (failure : Failure) (hfiles : token = tokenIn files)
        (hobstacle : obstacle = .unreadableToken failure) : obstacle.status = 500 := by
      subst hfiles hobstacle
      cases hmeets with
      | unreadableToken _ _ hread => exact status_of_tokenIn hread
    have hpaths (hunasked : obstacle = .unrouted ∨ obstacle = .preflight) : ¬ Routed request := by
      rcases hunasked with rfl | rfl
      · cases hmeets with
        | unrouted hpath => exact fun hrouted ↦ hpath hrouted.proxied
      · cases hmeets with
        | preflight _ hmethod => exact fun hrouted ↦ hrouted.method_ne hmethod
    rw [exchange_of_answer (planned_of_meets hmeets), status_conclude, Obstacle.status_answer]
    refine ⟨rfl, rfl, hstatus, fun hunasked ↦ pathsRead_of_not_routed (hpaths hunasked), ?_⟩
    rintro rfl
    cases hmeets with
    | preflight _ hmethod => exact conclude_preflight hmethod _ _

/-- A request that is sent, and a preflight to the same path. -/
theorem forwarding_decision_sample :
    (sample.observed (fun _ ↦ .ok "") (fun _ ↦ .switched {}) none .empty samplePeer
        { method := "GET", path := "/api/v1/pods" }).2.calls.length = 1 ∧
      (sample.observed (fun _ ↦ .ok "") (fun _ ↦ .switched {}) none .empty samplePeer
        { method := "OPTIONS", path := "/api/v1/pods" }).1.response.status = 200 := by
  have hpath : Proxied "/api/v1/pods" := admits_iff.1 (by decide)
  constructor
  · refine (forwarding_decision sample (fun _ ↦ .ok "") (fun _ ↦ .switched {}) none .empty
      samplePeer { method := "GET", path := "/api/v1/pods" }).2.1.2 ?_
    exact {
      proxied := hpath
      method_ne := by decide
      presentable := Or.inr ⟨rfl, sendable_of_visible (by decide), sendable_of_visible (by decide)⟩
      attachable := sendable_of_visible (by decide)
      body := Or.inr ⟨by decide, rfl⟩ }
  · exact ((forwarding_decision sample (fun _ ↦ .ok "") (fun _ ↦ .switched {}) none .empty
      samplePeer { method := "OPTIONS", path := "/api/v1/pods" }).2.2.2.2 .preflight
        (.preflight hpath rfl)).2.1

/-- Two requests that a list of layers and statuses may forget: one whose caller is authenticated,
but whose short body breaks off, so that it is not sent, and one for which the token reader fails
for a reason of its own, so that the answer is not 500. -/
theorem unforwarded_beyond_list :
    (∃ request : Request, Proxied request.path ∧ request.method ≠ "OPTIONS" ∧
      (∃ headers, sample.authenticated (fun _ ↦ .ok "") .empty samplePeer.address.canonical
        request.headers = .ok headers) ∧
      ¬ AsksUpgrade request.headers ∧ request.body.size ≤ maxBody ∧ sampleCalls request = []) ∧
    ∃ failure : Failure,
      (({ sample with credential := .bearerTokenFile "token" } : Gateway).observed
        (fun _ ↦ .error failure) (fun _ ↦ .switched {}) none .empty samplePeer
        { method := "GET", path := "/api/v1/pods" }).1.response.status = 401 := by
  constructor
  · refine ⟨{ method := "POST", path := "/api", bodyFault := some "connection reset" },
      admits_iff.1 (by decide), by decide, ⟨_, rfl⟩, ?_, by decide, rfl⟩
    rw [← isUpgrade_iff]
    decide
  · exact ⟨.unauthorized "no token", by decide⟩

end OverlayGateway.Gateway
