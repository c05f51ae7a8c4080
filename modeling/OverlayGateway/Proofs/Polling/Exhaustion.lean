import Mathlib.Algebra.BigOperators.Ring.Finset
import Mathlib.Algebra.Order.BigOperators.Group.Finset
import OverlayGateway.Proofs.Backoff
import OverlayGateway.Proofs.Polling
/-!
How long a polling waits that ends without a value because no attempt is left. If attempts take no
time, it has made all of them, and the time it took is that of the waits between them. A clock
lengthens a wait to the next multiple of its resolution, so as far as the clock goes the whole wait
is the sum of the rounded delays; it is what the schedule says if each delay is such a multiple.
-/

set_option autoImplicit false
set_option relaxedAutoImplicit false

namespace OverlayGateway

/-! ### Waits on a clock -/

namespace Clock

variable {clock : Clock}

theorem resolution_dvd_fires (deadline : Nat) : clock.resolution ∣ clock.fires deadline :=
  Nat.dvd_mul_left _ _

/-- A timer that is set at a multiple of the resolution rounds its delay. -/
theorem fires_add {now : Nat} (h : clock.resolution ∣ now) (delay : Nat) :
    clock.fires (now + delay) = now + clock.fires delay := by
  obtain ⟨count, rfl⟩ := h
  have hpos := clock.pos
  have hsplit : clock.resolution * count + delay + clock.resolution - 1 =
      clock.resolution * count + (delay + clock.resolution - 1) := by omega
  rw [fires, hsplit, Nat.mul_add_div hpos, Nat.add_mul, Nat.mul_comm count, fires]

theorem fires_eq_self_iff {delay : Nat} :
    clock.fires delay = delay ↔ clock.resolution ∣ delay := by
  constructor
  · intro h
    rw [← h]
    exact resolution_dvd_fires delay
  · intro h
    have hzero : clock.fires 0 = 0 := by
      have hlt : 0 + clock.resolution - 1 < clock.resolution := by have := clock.pos; omega
      rw [fires, Nat.div_eq_of_lt hlt, Nat.zero_mul]
    have hsum := fires_add h 0
    rwa [hzero, Nat.add_zero] at hsum

theorem fires_lt (delay : Nat) : clock.fires delay < delay + clock.resolution := by
  have hpos := clock.pos
  have hquotient := Nat.div_mul_le_self (delay + clock.resolution - 1) clock.resolution
  unfold fires
  omega

/-- Whether timers that fire up to some time are set and fire as they should. -/
def Reaches (clock : Clock) (time : Nat) : Prop :=
  ∀ horizon, clock.horizon = some horizon → time < horizon.limit ∧ time ≤ horizon.last

theorem Reaches.mono {earlier time : Nat} (h : clock.Reaches time) (hle : earlier ≤ time) :
    clock.Reaches earlier := fun horizon hhorizon ↦
  ⟨Nat.lt_of_le_of_lt hle (h horizon hhorizon).1, Nat.le_trans hle (h horizon hhorizon).2⟩

theorem firesAfter_of_reaches {now delay : Nat} (h : clock.Reaches (clock.fires (now + delay))) :
    clock.firesAfter now delay = clock.fires (now + delay) := by
  have hdeadline := clock.le_fires (now + delay)
  unfold firesAfter
  split
  · rfl
  · rename_i horizon hhorizon
    obtain ⟨hlimit, hlast⟩ := h horizon hhorizon
    dsimp only
    rw [if_neg (by omega), Nat.min_eq_right hlast, Nat.max_eq_right (by omega)]

theorem reaches_milliseconds {time : Nat} (h : time ≤ (UInt64.size - 3) * nanosPerMilli) :
    milliseconds.Reaches time := by
  rintro horizon ⟨⟩
  exact ⟨Nat.lt_of_le_of_lt h (by decide), h⟩

/-- When the last of some waits is over that follow one another from time 0 on. -/
def afterWaits (clock : Clock) (delay : Nat → Nat) : Nat → Nat
  | 0 => 0
  | count + 1 => clock.firesAfter (clock.afterWaits delay count) (delay (count + 1))

/-- As far as the clock goes, each wait is rounded for itself. -/
theorem afterWaits_eq_sum {delay : Nat → Nat} {count : Nat}
    (h : clock.Reaches (∑ attempt ∈ Finset.Ico 1 (count + 1), clock.fires (delay attempt))) :
    clock.afterWaits delay count =
      ∑ attempt ∈ Finset.Ico 1 (count + 1), clock.fires (delay attempt) := by
  induction count with
  | zero => rfl
  | succ count ih =>
    rw [Finset.sum_Ico_succ_top (Nat.le_add_left 1 count)] at h ⊢
    have hbefore := ih (h.mono (Nat.le_add_right _ _))
    have hdvd : clock.resolution ∣ clock.afterWaits delay count := by
      rw [hbefore]
      exact Finset.dvd_sum fun attempt _ ↦ resolution_dvd_fires _
    rw [← hbefore, ← fires_add hdvd] at h ⊢
    exact firesAfter_of_reaches h

/-- The rounding lengthens some waits unless all of them are multiples of the resolution, and none
by the resolution. -/
theorem sum_fires (delay : Nat → Nat) (count : Nat) :
    let total := ∑ attempt ∈ Finset.Ico 1 count, delay attempt
    let waited := ∑ attempt ∈ Finset.Ico 1 count, clock.fires (delay attempt)
    total ≤ waited ∧ waited ≤ total + (count - 1) * (clock.resolution - 1) ∧
      (waited = total ↔ ∀ attempt ∈ Finset.Ico 1 count, clock.resolution ∣ delay attempt) := by
  intro total waited
  have hle : total ≤ waited := Finset.sum_le_sum fun attempt _ ↦ clock.le_fires (delay attempt)
  refine ⟨hle, ?_, ?_⟩
  · calc waited
        ≤ ∑ attempt ∈ Finset.Ico 1 count, (delay attempt + (clock.resolution - 1)) :=
          Finset.sum_le_sum fun attempt _ ↦ by
            have := clock.fires_lt (delay attempt)
            omega
      _ = total + (count - 1) * (clock.resolution - 1) := by
          rw [Finset.sum_add_distrib, Finset.sum_const, Nat.card_Ico]
          rfl
  · rw [eq_comm, Finset.sum_eq_sum_iff_of_le fun attempt _ ↦ clock.le_fires (delay attempt)]
    exact forall₂_congr fun attempt _ ↦ by rw [eq_comm, fires_eq_self_iff]

end Clock

namespace Polling

variable {α : Type}

namespace Course

variable {course : Course α}

/-- Attempts that take no time leave the time to the waits. -/
theorem due_of_instant (hinstant : ∀ number, (course.script number).duration = 0) (count : Nat) :
    course.due count =
      course.clock.afterWaits (fun attempt ↦ (course.backoff.delayAfter attempt).nanos) count := by
  induction count with
  | zero => rfl
  | succ count ih => rw [due, hinstant, Nat.add_zero, ih, Clock.afterWaits]

theorem ended_of_instant (hinstant : ∀ number, (course.script number).duration = 0)
    (count : Nat) : course.ended count = course.due (count - 1) := by
  cases count with
  | zero => rfl
  | succ count =>
    rw [ended, hinstant]
    rfl

/-- An exhausted polling made all attempts, and is over as soon as the last of them is. -/
theorem exhausted_run (course : Course α) (name : String)
    (hexhausted : (Polling.run course.clock course.backoff name course.script
      course.firedAt).outcome = .exhausted) :
    let run := Polling.run course.clock course.backoff name course.script course.firedAt
    run.attempts.map Prod.fst = List.range' 1 course.backoff.maxAttempts ∧
      run.endedAt = course.ended course.backoff.maxAttempts := by
  intro run
  obtain ⟨count, hfollows⟩ := course.exists_follows_run name
  have hends : course.Ends count run.outcome run.endedAt := Nat.zero_add count ▸ hfollows.ends
  have hattempts : run.attempts = _ := hfollows.attempts
  rw [show run.outcome = .exhausted from hexhausted] at hends
  generalize run.endedAt = endedAt at hends
  cases hends with
  | exhausted hmissed hlast =>
    refine ⟨?_, by rw [hlast]⟩
    rw [hattempts, List.map_map, ← hlast]
    exact List.range'_succ_left.symm

end Course

/-- The whole wait of a schedule is what adding its delays one after the other gives: their sum, and
nothing if and only if that is longer than the longest duration. A polling of attempts that take no
time and that ends exhausted made all of them. The time it took is that of the waits between them,
which as far as the clock goes is the sum of the delays, each rounded up to the resolution of the
clock. That is the sum of the delays if and only if all of them are multiples of the resolution, as
for a clock that fires its timers when they are due. -/
theorem exhausted_waits_sum (course : Course α) (name : String)
    (hinstant : ∀ number, (course.script number).duration = 0) :
    let backoff := course.backoff
    let delay (attempt : Nat) : Nat :=
      min (attempt * backoff.baseDelay.nanos) backoff.maxDelay.nanos
    let total := ∑ attempt ∈ Finset.Ico 1 backoff.maxAttempts, delay attempt
    let waited := ∑ attempt ∈ Finset.Ico 1 backoff.maxAttempts, course.clock.fires (delay attempt)
    let run := Polling.run course.clock backoff name course.script course.firedAt
    (backoff.totalWait? = Duration.sum? backoff.delays ∧
      (∀ wait, backoff.totalWait? = some wait ↔ wait.nanos = total) ∧
      (backoff.totalWait? = none ↔ Duration.maxNanos < total)) ∧
    (run.outcome = .exhausted →
      run.attempts.map Prod.fst = List.range' 1 backoff.maxAttempts ∧
      run.endedAt = course.clock.afterWaits delay (backoff.maxAttempts - 1) ∧
      (course.clock.Reaches waited → run.endedAt = waited) ∧
      total ≤ waited ∧
      waited ≤ total + (backoff.maxAttempts - 1) * (course.clock.resolution - 1) ∧
      (waited = total ↔ ∀ attempt ∈ Finset.Ico 1 backoff.maxAttempts,
        course.clock.resolution ∣ delay attempt)) := by
  intro backoff delay total waited run
  refine ⟨⟨backoff.totalWait?_eq_sum?, fun wait ↦ Backoff.totalWait?_eq_some_iff,
    Backoff.totalWait?_eq_none_iff⟩, fun hexhausted ↦ ?_⟩
  obtain ⟨hattempts, hended⟩ := course.exhausted_run name hexhausted
  have hdelay : (fun attempt ↦ (backoff.delayAfter attempt).nanos) = delay :=
    funext fun attempt ↦ by rw [Backoff.nanos_delayAfter, Nat.mul_comm]
  have hwaits : run.endedAt = course.clock.afterWaits delay (backoff.maxAttempts - 1) := by
    rw [← hdelay, ← Course.due_of_instant hinstant, ← Course.ended_of_instant hinstant]
    exact hended
  refine ⟨hattempts, hwaits, fun hreaches ↦ ?_, Clock.sum_fires delay backoff.maxAttempts⟩
  rw [hwaits]
  cases hcount : backoff.maxAttempts with
  | zero => simp [waited, hcount, Clock.afterWaits]
  | succ count =>
    simp only [waited, hcount] at hreaches ⊢
    exact Clock.afterWaits_eq_sum hreaches

/-- Four waits of a millisecond and a half and a bit more, each rounded to whole milliseconds. -/
theorem exhausted_waits_sum_sample :
    let course : Course Nat :=
      { clock := .milliseconds
        backoff :=
          { maxAttempts := 5
            baseDelay := ⟨1500001, by decide⟩
            maxDelay := ⟨7000001, by decide⟩ }
        script := fun _ ↦ {}
        firedAt := none }
    let run := Polling.run course.clock course.backoff "op" course.script course.firedAt
    (∀ number, (course.script number).duration = 0) ∧ run.outcome = .exhausted ∧
      course.backoff.totalWait? = some ⟨15000010, by decide⟩ ∧
      run.attempts.map Prod.fst = [1, 2, 3, 4, 5] ∧ run.endedAt = 18 * nanosPerMilli := by
  intro course run
  have hinstant (number : Nat) : (course.script number).duration = 0 := rfl
  have hexhausted : run.outcome = .exhausted := by decide
  obtain ⟨⟨-, htotal, -⟩, hrun⟩ := exhausted_waits_sum course "op" hinstant
  obtain ⟨hattempts, -, hended, -⟩ := hrun hexhausted
  refine ⟨hinstant, hexhausted, (htotal _).2 (by decide), hattempts, ?_⟩
  rw [show run.endedAt = _ from hended (Clock.reaches_milliseconds (by decide))]
  decide

/-- Two waits of half a millisecond last two milliseconds on a clock with milliseconds, and a wait
that is too long for that clock lasts thirty years, although the schedules say one millisecond and
the longest number of seconds. -/
theorem exhausted_waits_other_than_sum :
    let half : Backoff :=
      { maxAttempts := 3, baseDelay := ⟨500000, by decide⟩, maxDelay := ⟨500000, by decide⟩ }
    let longest : Backoff :=
      { maxAttempts := 2
        baseDelay := .ofSeconds (UInt64.size - 1)
        maxDelay := .ofSeconds (UInt64.size - 1) }
    let run (backoff : Backoff) : Run Nat :=
      Polling.run .milliseconds backoff "op" (fun _ ↦ {}) none
    ((run half).outcome = .exhausted ∧ half.totalWait? = some (.ofMillis 1) ∧
      (run half).endedAt = 2 * nanosPerMilli) ∧
    (run longest).outcome = .exhausted ∧
      longest.totalWait? = some (.ofSeconds (UInt64.size - 1)) ∧
      (run longest).endedAt = Clock.thirtyYears := by
  decide

end Polling

end OverlayGateway
