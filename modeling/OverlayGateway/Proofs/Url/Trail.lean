import Mathlib.Logic.Function.Iterate
import OverlayGateway.Proofs.Url.Segments
/-!
Where a path leads, told apart from where it starts. Taken alone, the pieces of a path amount to a
number of segments that are left behind and a list of segments that are entered; from any base they
lead to what is left of the base followed by what is entered.
-/

set_option autoImplicit false
set_option relaxedAutoImplicit false

namespace OverlayGateway.Url

/-- How often a path leaves a segment that it did not enter, and what it enters for good. -/
structure Trail where
  ups : Nat := 0
  down : List String := []
  deriving DecidableEq

namespace Trail

/-- Leaves the segment entered last, or one more of the base. -/
def up (trail : Trail) : Trail :=
  if trail.down = [] then ⟨trail.ups + 1, []⟩ else ⟨trail.ups, goUp trail.down⟩

def enter (trail : Trail) (segments : List String) : Trail :=
  ⟨trail.ups, trail.down ++ segments⟩

/-- Takes one piece of a path; the last one always leaves a segment behind. -/
def step (trail : Trail) (piece : List Char) (isLast : Bool) : Trail :=
  if isDoubleDot piece then trail.up.enter (if isLast then [""] else [])
  else if isSingleDot piece then trail.enter (if isLast then [""] else [])
  else trail.enter [String.ofList (Percent.encode Percent.inPath piece)]

/-- Takes the pieces of a path in order. -/
def follow (trail : Trail) : List (List Char) → Trail
  | [] => trail
  | [last] => trail.step last true
  | piece :: rest => (trail.step piece false).follow rest

theorem follow_cons_cons (trail : Trail) (piece next : List Char) (rest : List (List Char)) :
    trail.follow (piece :: next :: rest) = (trail.step piece false).follow (next :: rest) := rfl

/-- What a trail leaves of a base. -/
def kept (trail : Trail) (base : List String) : List String := goUp^[trail.ups] base

/-- What a trail takes away from a base. -/
def lost (trail : Trail) (base : List String) : List String :=
  base.drop (trail.kept base).length

/-- Where a trail leads from a base. -/
def leads (trail : Trail) (base : List String) : List String := trail.kept base ++ trail.down

theorem goUp_append {front back : List String} (hback : back ≠ []) :
    goUp (front ++ back) = front ++ goUp back := by
  unfold goUp
  rw [List.getLast?_append_of_ne_nil front hback, List.dropLast_append_of_ne_nil hback]
  split <;> rfl

theorem leads_up (trail : Trail) (base : List String) :
    trail.up.leads base = goUp (trail.leads base) := by
  unfold up leads kept
  by_cases hdown : trail.down = []
  · rw [if_pos hdown, hdown, List.append_nil, List.append_nil, Function.iterate_succ_apply']
  · rw [if_neg hdown, goUp_append hdown]

theorem leads_enter (trail : Trail) (segments base : List String) :
    (trail.enter segments).leads base = trail.leads base ++ segments := by
  rw [leads, leads, List.append_assoc]
  rfl

/-- Taking a piece of a path and following it come to the same. -/
theorem walk_leads {scheme : String} (hscheme : isFile scheme = false) (trail : Trail)
    (base : List String) (piece : List Char) (isLast : Bool) :
    walk scheme (trail.leads base) piece isLast = (trail.step piece isLast).leads base := by
  unfold walk step
  split
  · rw [leads_enter, leads_up]
  · split
    · rw [leads_enter]
    · rw [leads_enter, segmentText_of_not_file hscheme]

theorem walkAll_leads {scheme : String} (hscheme : isFile scheme = false) (base : List String)
    (pieces : List (List Char)) (trail : Trail) :
    walkAll scheme (trail.leads base) pieces = (trail.follow pieces).leads base := by
  induction pieces generalizing trail with
  | nil => rfl
  | cons piece rest ih =>
    cases rest with
    | nil => exact walk_leads hscheme trail base piece true
    | cons next rest =>
      rw [walkAll_cons_cons, walk_leads hscheme, follow_cons_cons]
      exact ih (trail.step piece false)

/-! ### Bases -/

theorem isPrefix_kept (trail : Trail) (base : List String) : trail.kept base <+: base := by
  unfold kept
  induction trail.ups with
  | zero => exact List.prefix_refl base
  | succ ups ih =>
    rw [Function.iterate_succ_apply']
    exact (isPrefix_goUp _).trans ih

theorem kept_append_lost (trail : Trail) (base : List String) :
    trail.kept base ++ trail.lost base = base := by
  have htake : trail.kept base = base.take (trail.kept base).length :=
    List.prefix_iff_eq_take.1 (isPrefix_kept trail base)
  calc trail.kept base ++ trail.lost base
      = base.take (trail.kept base).length ++ trail.lost base := by rw [← htake]
    _ = base := List.take_append_drop _ base

/-- A trail stays below a base and enters a segment there if it enters again, in order, what it left
of the base. -/
theorem append_isPrefix_leads_iff (trail : Trail) (base : List String) (segments : List String) :
    base ++ segments <+: trail.leads base ↔ trail.lost base ++ segments <+: trail.down := by
  have hbase := kept_append_lost trail base
  constructor
  · intro h
    rw [← hbase, List.append_assoc, leads, hbase] at h
    exact (List.prefix_append_right_inj _).1 h
  · intro h
    have hfront := (List.prefix_append_right_inj (trail.kept base)).2 h
    rw [← List.append_assoc, hbase] at hfront
    exact hfront

/-! ### Paths without two dots -/

theorem step_of_plain (trail : Trail) {segment : String} (hsegment : Plain segment.toList)
    (isLast : Bool) : trail.step segment.toList isLast = trail.enter [segment] := by
  have hencode : Percent.encode Percent.inPath segment.toList = segment.toList :=
    Percent.encode_of_forall fun c hc ↦ (hsegment.safe c hc).1
  rw [step, hsegment.notDoubleDot, hsegment.notSingleDot, hencode, String.ofList_toList]
  rfl

theorem down_isPrefix_follow (trail : Trail) {pieces : List (List Char)}
    (hpieces : ∀ piece ∈ pieces, isDoubleDot piece = false) :
    (trail.follow pieces).ups = trail.ups ∧ trail.down <+: (trail.follow pieces).down := by
  have hstep (trail : Trail) (piece : List Char) (hpiece : isDoubleDot piece = false)
      (isLast : Bool) : (trail.step piece isLast).ups = trail.ups ∧
        trail.down <+: (trail.step piece isLast).down := by
    unfold step
    rw [hpiece, if_neg Bool.false_ne_true]
    split <;> exact ⟨rfl, List.prefix_append _ _⟩
  induction pieces generalizing trail with
  | nil => exact ⟨rfl, List.prefix_refl _⟩
  | cons piece rest ih =>
    rw [List.forall_mem_cons] at hpieces
    cases rest with
    | nil => exact hstep trail piece hpieces.1 true
    | cons next rest =>
      rw [follow_cons_cons]
      obtain ⟨hups, hdown⟩ := hstep trail piece hpieces.1 false
      obtain ⟨hrestUps, hrestDown⟩ := ih (trail.step piece false) hpieces.2
      exact ⟨hrestUps.trans hups, hdown.trans hrestDown⟩

theorem lost_of_ups_eq_zero {trail : Trail} (h : trail.ups = 0) (base : List String) :
    trail.lost base = [] := by
  rw [lost, kept, h]
  exact List.drop_length

end Trail

end OverlayGateway.Url
