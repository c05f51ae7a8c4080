import OverlayGateway.Http.Message
import OverlayGateway.Proofs.Http.Headers
import OverlayGateway.Proofs.Http.Sendable
/-!
What leaves for a response. Its status and its headers stay what they are, but for the length of the
body: that is stated where nothing states it already and the body is whole, and not where a tunnel
is opened. The body leaves as it is too, unless the method is one whose responses have none.
-/

set_option autoImplicit false
set_option relaxedAutoImplicit false

namespace OverlayGateway.Http.Response

/-! ### Lengths -/

theorem status_withContentLength (response : Response) :
    response.withContentLength.status = response.status := by
  unfold withContentLength
  split <;> rfl

theorem values_withContentLength_of_ne (response : Response) {name : HeaderName}
    (hname : name ≠ .contentLength) :
    response.withContentLength.headers.values name = response.headers.values name := by
  unfold withContentLength Headers.insertText
  split
  · rfl
  · split
    · exact Headers.values_insert_of_ne _ _ hname
    · rfl

theorem body_withContentLength (response : Response) :
    response.withContentLength.body = response.body := by
  unfold withContentLength
  split <;> rfl

/-- No length is added to one that is stated, and none to a body that is streamed. -/
theorem withContentLength_of_stated {response : Response}
    (h : response.headers.values .contentLength ≠ [] ∨ response.streamed = true) :
    response.withContentLength = response := by
  rw [← Headers.contains_iff, ← Bool.or_eq_true] at h
  rw [withContentLength, if_pos h]

theorem carries_withContentLength {response : Response}
    (hunstated : response.headers.values .contentLength = [])
    (hwhole : response.streamed = false) :
    response.withContentLength.headers.Carries .contentLength [response.body.size.repr] := by
  have hstated : ¬ (response.headers.contains .contentLength || response.streamed) = true := by
    rw [Bool.or_eq_true, Headers.contains_iff, hwhole]
    simp [hunstated]
  obtain ⟨value, hvalue⟩ : Sendable (Decimal.write response.body.size) :=
    sendable_of_visible (Text.visible_write _)
  rw [withContentLength, if_neg hstated, Headers.insertText, hvalue]
  exact Headers.carries_insert response.headers .contentLength
    (HeaderValue.bytes_of_ofString? hvalue)

/-! ### What leaves -/

/-- Two responses with the same body, which is sent in the same way. -/
structure SameBody (first second : Response) : Prop where
  body : first.body = second.body
  streamed : first.streamed = second.streamed
  fault : first.bodyFault = second.bodyFault

/-- Whether a response to a method opens a tunnel. -/
def Tunnels (method : String) (response : Response) : Prop :=
  method = "CONNECT" ∧ 200 ≤ response.status ∧ response.status < 300

instance (method : String) (response : Response) : Decidable (Tunnels method response) :=
  inferInstanceAs (Decidable (_ ∧ _))

/-- Whether a response states something about its body, or has one that is whole. -/
def Announces (response : Response) : Prop :=
  response.headers.values .contentLength ≠ [] ∨ response.headers.values .transferEncoding ≠ [] ∨
    response.streamed = false ∧ response.body ≠ .empty

/-- What leaves for a response to a method. -/
structure Leaves (method : String) (response sent : Response) : Prop where
  status : sent.status = response.status
  headers : ∀ name ≠ .contentLength, sent.headers.values name = response.headers.values name
  added : ¬ Tunnels method response → response.headers.values .contentLength = [] →
    response.streamed = false → sent.headers.Carries .contentLength [response.body.size.repr]
  kept : Tunnels method response ∨ response.headers.values .contentLength ≠ [] ∨
      response.streamed = true →
    sent.headers.values .contentLength = response.headers.values .contentLength
  body : method ≠ "HEAD" → ¬ (Tunnels method response ∧ Announces response) →
    SameBody sent response
  bodiless : method = "HEAD" ∨ Tunnels method response ∧ Announces response →
    SameBody sent { status := response.status }

theorem tunnels_iff {method : String} {response : Response} :
    (method = "CONNECT" && response.isSuccess) = true ↔ Tunnels method response := by
  simp only [isSuccess, Bool.and_eq_true, decide_eq_true_eq, Tunnels]

theorem announcesBody_iff {response : Response} :
    response.announcesBody = true ↔ Announces response := by
  have hempty : response.body.size = 0 ↔ response.body = .empty := ByteArray.size_eq_zero_iff
  simp only [announcesBody, Announces, Bool.or_eq_true, Headers.contains_iff, Bool.and_eq_true,
    Bool.not_eq_true', decide_eq_true_eq, ne_eq, hempty, or_assoc]

theorem sameBody_withContentLength (response : Response) :
    SameBody response.withContentLength response := by
  unfold withContentLength
  split <;> exact ⟨rfl, rfl, rfl⟩

theorem leaves_finished (method : String) (response : Response) :
    Leaves method response (response.finished method) := by
  unfold finished
  by_cases htunnel : Tunnels method response
  · have hhead : method ≠ "HEAD" := by
      rw [htunnel.1]
      decide
    rw [if_pos (tunnels_iff.2 htunnel)]
    by_cases hannounced : Announces response
    · rw [if_pos (announcesBody_iff.2 hannounced)]
      exact ⟨rfl, fun _ _ ↦ rfl, fun hno ↦ absurd htunnel hno, fun _ ↦ rfl,
        fun _ hno ↦ absurd ⟨htunnel, hannounced⟩ hno, fun _ ↦ ⟨rfl, rfl, rfl⟩⟩
    · rw [if_neg (mt announcesBody_iff.1 hannounced)]
      refine ⟨rfl, fun _ _ ↦ rfl, fun hno ↦ absurd htunnel hno, fun _ ↦ rfl,
        fun _ _ ↦ ⟨rfl, rfl, rfl⟩, ?_⟩
      rintro (hmethod | ⟨-, hyes⟩)
      · exact absurd hmethod hhead
      · exact absurd hyes hannounced
  · rw [if_neg (mt tunnels_iff.1 htunnel)]
    have hkept (hstated : Tunnels method response ∨
        response.headers.values .contentLength ≠ [] ∨ response.streamed = true) :
        response.withContentLength = response :=
      withContentLength_of_stated (hstated.resolve_left htunnel)
    by_cases hhead : method = "HEAD"
    · rw [if_pos hhead]
      refine ⟨status_withContentLength response, fun _ ↦ values_withContentLength_of_ne response,
        fun _ ↦ carries_withContentLength, fun hstated ↦ ?_, fun hno ↦ absurd hhead hno,
        fun _ ↦ ⟨rfl, rfl, rfl⟩⟩
      rw [hkept hstated]
      rfl
    · rw [if_neg hhead]
      refine ⟨status_withContentLength response, fun _ ↦ values_withContentLength_of_ne response,
        fun _ ↦ carries_withContentLength, fun hstated ↦ by rw [hkept hstated],
        fun _ _ ↦ sameBody_withContentLength response, ?_⟩
      rintro (hmethod | ⟨hyes, -⟩)
      · exact absurd hmethod hhead
      · exact absurd hyes htunnel

theorem status_finished (response : Response) (method : String) :
    (response.finished method).status = response.status :=
  (leaves_finished method response).status

theorem status_unrouted (path : String) : (unrouted path).status = 404 := by
  unfold unrouted
  dsimp only
  split
  · rfl
  · exact status_withContentLength _

/-! ### Documents -/

/-- A response as it leaves with a status and a JSON document. -/
structure IsDocument (status : Nat) (document : Json.Value) (response : Response) : Prop where
  status : response.status = status
  contentType : response.headers.Carries .contentType ["application/json"]
  contentLength : response.headers.Carries .contentLength [document.text.utf8ByteSize.repr]
  body : response.body = document.text.toUTF8

theorem values_json_of_ne (status : Nat) (document : Json.Value) {name : HeaderName}
    (hname : name ≠ .contentType) : (json status document).headers.values name = [] :=
  Headers.values_insert_of_ne .empty _ hname

theorem carries_json (status : Nat) (document : Json.Value) :
    (json status document).headers.Carries .contentType ["application/json"] := by
  rw [Headers.Carries, json, Headers.values_insert_self]
  rfl

theorem isDocument_finished {method : String} (hhead : method ≠ "HEAD")
    (hconnect : method ≠ "CONNECT") (status : Nat) (document : Json.Value) :
    IsDocument status document ((json status document).finished method) := by
  have h := leaves_finished method (json status document)
  have htunnel : ¬ Tunnels method (json status document) := fun htunnel ↦ hconnect htunnel.1
  exact {
    status := h.status
    contentType := (carries_json status document).of_values_eq (h.headers _ (by decide))
    contentLength := h.added htunnel (values_json_of_ne status document (by decide)) rfl
    body := (h.body hhead fun hboth ↦ htunnel hboth.1).body }

end OverlayGateway.Http.Response
