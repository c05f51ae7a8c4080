import Mathlib.Order.Monotone.Basic
import OverlayGateway.Proofs.Periodic.Shutdown
/-!
When the fetches of periodic merging start. A fetch starts when it is due, or when the one before it
is over if that is later, so fetches never overlap. The next one is due an interval after this one
was due, or an interval after this one started if it started late. So two starts are no closer than
the interval, up to the tolerance, and no further apart than the interval or the fetch between them
is long; and what a fetch answers makes no difference to any start.
-/

set_option autoImplicit false
set_option relaxedAutoImplicit false

namespace OverlayGateway.Periodic

/-- Fetches that are due and start at some times, when each takes as long as `duration` says: a
fetch that starts more than five milliseconds late moves the ones behind it. -/
structure Paced (interval : Nat) (duration due start : Nat → Nat) : Prop where
  due_zero : due 0 = 0
  start_zero : start 0 = 0
  start_succ : ∀ number,
    start (number + 1) = max (start number + duration number) (due (number + 1))
  due_succ_of_late : ∀ number, due number + 5 * nanosPerMilli < start number →
    due (number + 1) = start number + interval
  due_succ_of_punctual : ∀ number, start number ≤ due number + 5 * nanosPerMilli →
    due (number + 1) = due number + interval

namespace Paced

variable {interval : Nat} {duration due start : Nat → Nat}

/-- No fetch starts before it is due. -/
theorem due_le_start (h : Paced interval duration due start) (number : Nat) :
    due number ≤ start number := by
  cases number with
  | zero => exact Nat.le_of_eq (h.due_zero.trans h.start_zero.symm)
  | succ number =>
    rw [h.start_succ]
    exact Nat.le_max_right _ _

/-- The next fetch is due an interval after this one started, or up to the tolerance earlier. -/
theorem due_succ_bounds (h : Paced interval duration due start) (number : Nat) :
    start number + interval ≤ due (number + 1) + 5 * nanosPerMilli ∧
      due (number + 1) ≤ start number + interval := by
  have hdue := h.due_le_start number
  rcases Nat.lt_or_ge (due number + 5 * nanosPerMilli) (start number) with hlate | hpunctual
  · rw [h.due_succ_of_late number hlate]
    omega
  · rw [h.due_succ_of_punctual number hpunctual]
    omega

/-- A fetch is over when the next one starts. -/
theorem over_le_start_succ (h : Paced interval duration due start) (number : Nat) :
    start number + duration number ≤ start (number + 1) := by
  rw [h.start_succ]
  exact Nat.le_max_left _ _

theorem start_add_interval_le (h : Paced interval duration due start) (number : Nat) :
    start number + interval ≤ start (number + 1) + 5 * nanosPerMilli :=
  Nat.le_trans (h.due_succ_bounds number).1 (Nat.add_le_add_right (h.due_le_start _) _)

theorem start_succ_le (h : Paced interval duration due start) (number : Nat) :
    start (number + 1) ≤ start number + max interval (duration number) := by
  have hdue := (h.due_succ_bounds number).2
  rw [h.start_succ]
  omega

theorem start_mono (h : Paced interval duration due start) : Monotone start :=
  monotone_nat_of_le_succ fun number ↦
    Nat.le_trans (Nat.le_add_right _ _) (h.over_le_start_succ number)

/-- How long the fetches take says when they start. -/
theorem eq (h : Paced interval duration due start) {otherDue otherStart : Nat → Nat}
    (hother : Paced interval duration otherDue otherStart) :
    due = otherDue ∧ start = otherStart := by
  have hsame (number : Nat) : due number = otherDue number ∧ start number = otherStart number := by
    induction number with
    | zero =>
      exact ⟨h.due_zero.trans hother.due_zero.symm, h.start_zero.trans hother.start_zero.symm⟩
    | succ number ih =>
      obtain ⟨hdue, hstart⟩ := ih
      have hnext : due (number + 1) = otherDue (number + 1) := by
        rcases Nat.lt_or_ge (due number + 5 * nanosPerMilli) (start number) with hlate | hpunctual
        · rw [h.due_succ_of_late number hlate, hstart,
            hother.due_succ_of_late number (by rwa [← hdue, ← hstart])]
        · rw [h.due_succ_of_punctual number hpunctual, hdue,
            hother.due_succ_of_punctual number (by rwa [← hdue, ← hstart])]
      exact ⟨hnext, by rw [h.start_succ, hother.start_succ, hnext, hstart]⟩
  exact ⟨funext fun number ↦ (hsame number).1, funext fun number ↦ (hsame number).2⟩

end Paced

/-! ### The series of fetches is paced -/

section Series

variable {interval : { n : Nat // 0 < n }} {script : Nat → Fetch}

/-- What a run waits for after one fetch more. -/
theorem Pending.after_succ_eq_next (count : Nat) :
    ∀ pending : Pending, pending.after interval script (count + 1) =
      (pending.after interval script count).next interval script := by
  induction count with
  | zero => exact fun _ ↦ rfl
  | succ count ih => exact fun pending ↦ ih (pending.next interval script)

theorem Pending.index_after (pending : Pending) (count : Nat) :
    (pending.after interval script count).index = pending.index + count := by
  induction count with
  | zero => rfl
  | succ count ih =>
    rw [Pending.after_succ_eq_next, Pending.next, ih]
    rfl

/-- The fetches of a run that nothing stops. -/
theorem paced_after (table : MappingTable) :
    Paced interval.1 (fun number ↦ (script number).duration)
      (fun number ↦ ((Pending.first table).after interval script number).due)
      (fun number ↦ ((Pending.first table).after interval script number).start) where
  due_zero := rfl
  start_zero := rfl
  start_succ number := by
    have hindex := @Pending.index_after interval script (.first table) number
    rw [Pending.first, Nat.zero_add] at hindex
    simp only [Pending.after_succ_eq_next, Pending.next, Pending.start, Pending.first, hindex]
  due_succ_of_late number hlate := by
    rw [Pending.after_succ_eq_next]
    exact if_pos hlate
  due_succ_of_punctual number hpunctual := by
    rw [Pending.after_succ_eq_next]
    exact if_neg (Nat.not_lt.2 hpunctual)

variable {firedAt : Nat} {choices : List Turn} {pending : Pending} {run : Run}

/-- A run does not stop before its next fetch would start after the token has fired. -/
theorem Goes.exists_fetches (h : Goes interval script firedAt choices pending run) :
    ∃ count, run.fetches = (List.range count).map
        (fun number ↦ (pending.after interval script number).start) ∧
      firedAt ≤ (pending.after interval script count).start := by
  induction h with
  | @stop choices pending hfired hchoice =>
    exact ⟨0, rfl, Nat.le_trans pending.firedAt_le_notices hfired⟩
  | early hearly rest ih | late htie rest ih =>
    obtain ⟨count, hfetches, hstart⟩ := ih
    refine ⟨count + 1, ?_, hstart⟩
    rw [List.range_succ_eq_map, List.map_cons, List.map_map]
    exact congrArg (List.cons _) hfetches

end Series

theorem interval_of_pos {settings : SyncSettings} (h : 0 < settings.interval.nanos) :
    (interval settings).1 = settings.interval.nanos :=
  Nat.max_eq_right h

/-- A run with a source is a beginning of a paced series, and goes on with it until the token has
fired. -/
theorem exists_paced {settings : SyncSettings} (hconfigured : settings.isConfigured = true)
    (hinterval : 0 < settings.interval.nanos) (script : Nat → Fetch) (firedAt : Nat)
    (choices : List Turn) (table : MappingTable) :
    let run := Periodic.run settings script firedAt choices table
    ∃ due start, Paced settings.interval.nanos (fun number ↦ (script number).duration) due start ∧
      (∃ count, run.fetches = (List.range count).map start) ∧
      ∀ number, start number < firedAt → run.fetches[number]? = some (start number) := by
  intro run
  have hpaced := @paced_after (interval settings) script table
  rw [interval_of_pos hinterval] at hpaced
  have hrun : run.fetches = _ := (run_of_configured hconfigured script firedAt choices table).1
  obtain ⟨count, hcount, hfired⟩ :=
    (goes_run (interval settings) script firedAt choices (.first table)).exists_fetches
  rw [hrun, hcount]
  refine ⟨_, _, hpaced, ⟨count, rfl⟩, fun number hstart ↦ ?_⟩
  have hnumber : number < count := by
    refine Nat.lt_of_not_le fun hle ↦ Nat.not_lt.2 ?_ hstart
    exact Nat.le_trans hfired (hpaced.start_mono hle)
  rw [List.getElem?_map, List.getElem?_range hnumber]
  rfl

/-- With a source and an interval, how long the fetches take says when they are due and when they
start, whatever they answer. They are paced: the first one starts at once, none before the one in
front of it is over, none sooner behind the start of that one than the interval allows, up to the
tolerance, and none later than the interval and the fetch in front make it. A run is a beginning of
that series, and a fetch that would start before the token fires does start then. -/
theorem fetches_paced {settings : SyncSettings} (hconfigured : settings.isConfigured = true)
    (hinterval : 0 < settings.interval.nanos) (duration : Nat → Nat) :
    ∃ due start, Paced settings.interval.nanos duration due start ∧
      (∀ number, start number + duration number ≤ start (number + 1) ∧
        start number + settings.interval.nanos ≤ start (number + 1) + 5 * nanosPerMilli ∧
        start (number + 1) ≤ start number + max settings.interval.nanos (duration number)) ∧
      ∀ script firedAt choices table, (∀ number, (script number).duration = duration number) →
        let run := Periodic.run settings script firedAt choices table
        (∃ count, run.fetches = (List.range count).map start) ∧
          ∀ number, start number < firedAt → run.fetches[number]? = some (start number) := by
  let silent (number : Nat) : Fetch := { answer := .ok .empty, duration := duration number }
  obtain ⟨due, start, hpaced, _⟩ := exists_paced hconfigured hinterval silent 0 [] .empty
  refine ⟨due, start, hpaced, fun number ↦ ⟨hpaced.over_le_start_succ number,
    hpaced.start_add_interval_le number, hpaced.start_succ_le number⟩, ?_⟩
  intro script firedAt choices table hduration
  obtain ⟨scriptDue, scriptStart, hscript, hrun⟩ :=
    exists_paced hconfigured hinterval script firedAt choices table
  -- the answers of the script make no difference to when its fetches start
  rw [funext hduration] at hscript
  rwa [(hpaced.eq hscript).2]

/-- The second fetch starts late because the first one takes longer than the interval, and the third
one is due an interval behind it, though the first one failed. -/
theorem fetches_paced_sample :
    let settings : SyncSettings := { serverDomain := "netmaker.example", apiToken := "token" }
    let duration (number : Nat) : Nat := if number = 0 then 40 * nanosPerSecond else 0
    let script (number : Nat) : Fetch :=
      { answer := if number = 0 then .error (.sync "timeout") else .ok .empty
        duration := duration number }
    settings.isConfigured = true ∧ 0 < settings.interval.nanos ∧
      (run settings script (75 * nanosPerSecond) [] .empty).fetches[2]? =
        some (70 * nanosPerSecond) := by
  intro settings duration script
  have hconfigured : settings.isConfigured = true := rfl
  have hnanos : settings.interval.nanos = 30 * nanosPerSecond := by decide
  have hinterval : 0 < settings.interval.nanos := by decide
  obtain ⟨due, start, hpaced, _, hrun⟩ := fetches_paced hconfigured hinterval duration
  rw [hnanos] at hpaced
  have hdue : due 1 = 30 * nanosPerSecond := by
    have hnext := hpaced.due_succ_of_punctual 0 (by rw [hpaced.start_zero]; exact Nat.zero_le _)
    rw [hnext, hpaced.due_zero, Nat.zero_add]
  have hstart : start 1 = 40 * nanosPerSecond := by
    rw [hpaced.start_succ, hpaced.start_zero, hdue]
    decide
  have hnextDue : due 2 = 70 * nanosPerSecond := by
    rw [hpaced.due_succ_of_late 1 (by rw [hdue, hstart]; decide), hstart]
    decide
  have hnextStart : start 2 = 70 * nanosPerSecond := by
    rw [hpaced.start_succ, hstart, hnextDue]
    decide
  obtain ⟨_, hstarts⟩ := hrun script (75 * nanosPerSecond) [] .empty fun _ ↦ rfl
  refine ⟨hconfigured, hinterval, ?_⟩
  rw [hstarts 2 (by rw [hnextStart]; decide), hnextStart]

end OverlayGateway.Periodic
