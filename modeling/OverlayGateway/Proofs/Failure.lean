import OverlayGateway.Failure
/-!
Failures apart from their texts, and with them. Of some kinds the answer is a fixed sentence, of the
others it holds a text of the failure. Two runs of one computation are compared: both fail for the
same reason, or both succeed with values that are related.
-/

set_option autoImplicit false
set_option relaxedAutoImplicit false

namespace OverlayGateway

namespace Failure

/-! ### Kinds of failures -/

/-- A failure without its texts. -/
inductive Kind where
  | unauthorized
  | invalidMode
  | invalidRequest
  | syncNotConfigured
  | sync
  | forwarding
  | configuration
  | bind
  | internal
  deriving DecidableEq, Repr

def kind : Failure → Kind
  | .unauthorized _ => .unauthorized
  | .invalidMode _ => .invalidMode
  | .invalidRequest _ _ => .invalidRequest
  | .syncNotConfigured => .syncNotConfigured
  | .sync _ => .sync
  | .forwarding _ => .forwarding
  | .configuration _ => .configuration
  | .bind _ _ => .bind
  | .internal _ => .internal

/-- Whether the failures of a kind are answered with a fixed sentence. -/
def Kind.isSilent : Kind → Bool
  | .unauthorized | .invalidMode | .syncNotConfigured | .forwarding | .bind => true
  | .invalidRequest | .sync | .configuration | .internal => false

theorem answer_congr {first second : Failure} (hkind : first.kind = second.kind)
    (hsilent : first.kind.isSilent = true) : first.answer = second.answer := by
  cases first <;> cases hsilent <;> cases second <;> cases hkind <;> rfl

theorem occursIn_iff {part cs : List Char} : occursIn part cs = true ↔ part <:+: cs := by
  induction cs with
  | nil => simp [occursIn]
  | cons c cs ih =>
    rw [occursIn, Bool.or_eq_true, ih, List.isPrefixOf_iff_prefix, List.infix_cons_iff]

/-- A failure reports that the caller went away if its text has one of the fragments in it. -/
theorem isDisconnect_iff {failure : Failure} : failure.isDisconnect = true ↔
    ∃ marker ∈ disconnectMarkers, marker.toList <:+: failure.message.toList := by
  simp only [isDisconnect, List.any_eq_true, occursIn_iff]

/-! ### What a failure is answered with -/

/-- The status and the members of the document, in their order, that a failure is answered with. -/
inductive Tells : Failure → Nat → List (String × String) → Prop
  | unauthorized (cause : String) :
      Tells (.unauthorized cause) 401 [("error", "Proxy authentication required")]
  | invalidMode (name : String) :
      Tells (.invalidMode name) 500 [("error", "Invalid proxy configuration")]
  | invalidRequest (summary : String) :
      Tells (.invalidRequest summary none) 400 [("error", summary)]
  | detailed (summary details : String) :
      Tells (.invalidRequest summary (some details)) 400 [("details", details), ("error", summary)]
  | syncNotConfigured : Tells .syncNotConfigured 400 [("error", "External API not configured")]
  | sync (cause : String) :
      Tells (.sync cause) 500 [("details", cause), ("error", "Failed to sync from external API")]
  | forwarding (cause : String) : Tells (.forwarding cause) 502 [("error", "upstream error")]
  | configuration (cause : String) : Tells (.configuration cause) 500 [("error", cause)]
  | bind (socket : Ip.Socket) (cause : String) :
      Tells (.bind socket cause) 500 [("error", "internal error")]
  | internal (cause : String) : Tells (.internal cause) 500 [("error", cause)]

/-- A document whose members are texts. -/
def textDocument (members : List (String × String)) : Json.Value :=
  .object (members.map fun (name, text) ↦ (name, .string text))

/-- Every failure is answered with the status and the document that it has to be answered with. -/
theorem exists_tells (failure : Failure) : ∃ members,
    Tells failure failure.status members ∧ failure.document = textDocument members := by
  have hnames : "details" < "error" := by decide
  cases failure with
  | unauthorized cause => exact ⟨_, .unauthorized cause, Json.Value.sorted_singleton _⟩
  | invalidMode name => exact ⟨_, .invalidMode name, Json.Value.sorted_singleton _⟩
  | invalidRequest summary details =>
    cases details with
    | none => exact ⟨_, .invalidRequest summary, Json.Value.sorted_singleton _⟩
    | some details => exact ⟨_, .detailed summary details, Json.Value.sorted_pair hnames _ _⟩
  | syncNotConfigured => exact ⟨_, .syncNotConfigured, Json.Value.sorted_singleton _⟩
  | sync cause => exact ⟨_, .sync cause, Json.Value.sorted_pair hnames _ _⟩
  | forwarding cause => exact ⟨_, .forwarding cause, Json.Value.sorted_singleton _⟩
  | configuration cause => exact ⟨_, .configuration cause, Json.Value.sorted_singleton _⟩
  | bind socket cause => exact ⟨_, .bind socket cause, Json.Value.sorted_singleton _⟩
  | internal cause => exact ⟨_, .internal cause, Json.Value.sorted_singleton _⟩

end Failure

/-! ### Two runs of one computation -/

/-- Two results that failed alike, or succeeded with related values. -/
inductive SameResult {α : Type} (related : α → α → Prop) :
    Except Failure α → Except Failure α → Prop
  | error (failure : Failure) : SameResult related (.error failure) (.error failure)
  | ok {first second : α} (h : related first second) :
      SameResult related (.ok first) (.ok second)

theorem SameResult.map {α β : Type} {related : α → α → Prop} {mapped : β → β → Prop}
    {first second : Except Failure α} (h : SameResult related first second) {f g : α → β}
    (hmapped : ∀ a b, related a b → mapped (f a) (g b)) :
    SameResult mapped (first.map f) (second.map g) := by
  cases h with
  | error failure => exact .error failure
  | ok h => exact .ok (hmapped _ _ h)

theorem SameResult.related_of_ok {α : Type} {related : α → α → Prop} {first second : α}
    (h : SameResult related (.ok first) (.ok second)) : related first second := by
  cases h with
  | ok h => exact h

end OverlayGateway
