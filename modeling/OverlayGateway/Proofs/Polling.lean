import Mathlib.Order.Bounds.Defs
import OverlayGateway.Polling
/-!
How a polling goes and how it ends. The attempts are due one after the other, each when the wait
behind the one before it is over. They are made up to the last that is allowed, that has no value
before it, and for which the token has not fired by the time it is due. The polling then ends with
the value of that attempt, or without one: exhausted if no attempt is left, and cancelled otherwise,
as soon as the attempt is over and the token has fired.
-/

set_option autoImplicit false
set_option relaxedAutoImplicit false

namespace OverlayGateway

/-! ### Clocks -/

namespace Clock

theorem le_fires (clock : Clock) (deadline : Nat) : deadline ≤ clock.fires deadline := by
  have hremainder := Nat.mod_lt (deadline + clock.resolution - 1) clock.pos
  have hquotient := Nat.div_add_mod' (deadline + clock.resolution - 1) clock.resolution
  unfold fires
  omega

/-- No timer fires before it is set. -/
theorem le_firesAfter (clock : Clock) (now delay : Nat) : now ≤ clock.firesAfter now delay := by
  unfold firesAfter
  split
  · exact Nat.le_trans (Nat.le_add_right now delay) (clock.le_fires _)
  · exact Nat.le_max_left _ _

/-- A clock with milliseconds is exact for times in whole milliseconds, as far as it goes. -/
theorem firesAfter_milliseconds {now delay : Nat} (hnow : nanosPerMilli ∣ now)
    (hdelay : nanosPerMilli ∣ delay) (hrange : now + delay ≤ (UInt64.size - 3) * nanosPerMilli) :
    milliseconds.firesAfter now delay = now + delay := by
  obtain ⟨count, hcount⟩ := Nat.dvd_add hnow hdelay
  have hlimit : ¬ UInt64.size / 2 * nanosPerSecond ≤ now + delay := by
    refine Nat.not_le.2 (Nat.lt_of_le_of_lt hrange ?_)
    decide
  have hfires : milliseconds.fires (now + delay) = now + delay := by
    simp only [fires, milliseconds, nanosPerMilli] at hcount ⊢
    omega
  have hlast : min ((UInt64.size - 3) * nanosPerMilli) (now + delay) = now + delay :=
    Nat.min_eq_right hrange
  simp only [firesAfter, milliseconds, if_neg hlimit] at hfires ⊢
  rw [hfires, hlast]
  exact Nat.max_eq_right (Nat.le_add_right _ _)

end Clock

namespace Polling

variable {α : Type}

/-! ### The course of a polling -/

/-- All that decides how a polling goes. -/
structure Course (α : Type) where
  clock : Clock
  backoff : Backoff
  script : Nat → Attempt α
  /-- When something other than an attempt makes the token fire, if ever. -/
  firedAt : Option Nat

namespace Course

/-- When the attempt is due that follows the first `count` ones. -/
def due (course : Course α) : Nat → Nat
  | 0 => 0
  | count + 1 =>
    course.clock.firesAfter (course.due count + (course.script (count + 1)).duration)
      (course.backoff.delayAfter (count + 1)).nanos

/-- When the first `count` attempts are over. -/
def ended (course : Course α) : Nat → Nat
  | 0 => 0
  | count + 1 => course.due count + (course.script (count + 1)).duration

/-- When the token fires, if the first `count` attempts are made. -/
def firing (course : Course α) : Nat → Option Nat
  | 0 => course.firedAt
  | count + 1 =>
    if (course.script (count + 1)).cancels then
      some (earlier (course.firing count) (course.ended (count + 1)))
    else course.firing count

/-- The value of the last of the first `count` attempts. -/
def value? (course : Course α) : Nat → Option α
  | 0 => none
  | count + 1 => (course.script (count + 1)).value

/-- Whether the first `count` attempts may be made: there are so many, none before the last of them
has a value, and the token has not fired by the time at which the last of them is due. -/
structure Allows (course : Course α) (count : Nat) : Prop where
  within : count ≤ course.backoff.maxAttempts
  missed : ∀ earlier < count, course.value? earlier = none
  unfired : ∀ earlier, count = earlier + 1 →
    hasFired (course.firing earlier) (course.due earlier) = false

/-- Whether another attempt follows the first `count` ones. -/
structure Continues (course : Course α) (count : Nat) : Prop where
  left : count < course.backoff.maxAttempts
  missed : course.value? count = none
  unfired : hasFired (course.firing count) (course.due count) = false

/-- How and when a polling ends behind its first `count` attempts. -/
inductive Ends (course : Course α) (count : Nat) : Outcome α → Nat → Prop
  | ready {value : α} (hvalue : course.value? count = some value) :
      Ends course count (.ready value) (course.ended count)
  | exhausted (hmissed : course.value? count = none) (hlast : count = course.backoff.maxAttempts) :
      Ends course count .exhausted (course.ended count)
  | cancelled {time : Nat} (hmissed : course.value? count = none)
      (hleft : count < course.backoff.maxAttempts) (hfiring : course.firing count = some time)
      (hfired : time ≤ course.due count) :
      Ends course count .cancelled (max (course.ended count) time)

/-! ### Times -/

variable {course : Course α}

theorem ended_le_due (count : Nat) : course.ended count ≤ course.due count := by
  cases count with
  | zero => exact Nat.le_refl 0
  | succ count => exact course.clock.le_firesAfter _ _

theorem due_le_due_succ (count : Nat) : course.due count ≤ course.due (count + 1) :=
  Nat.le_trans (Nat.le_add_right _ _) (course.ended_le_due (count + 1))

theorem hasFired_eq_true_iff {firedAt : Option Nat} {now : Nat} :
    hasFired firedAt now = true ↔ ∃ time, firedAt = some time ∧ time ≤ now := by
  cases firedAt <;> simp [hasFired]

/-- A token that has fired stays so. -/
theorem hasFired_succ {count : Nat} (h : hasFired (course.firing count) (course.due count) = true) :
    hasFired (course.firing (count + 1)) (course.due (count + 1)) = true := by
  obtain ⟨time, hfiring, hfired⟩ := hasFired_eq_true_iff.1 h
  have hdue := course.due_le_due_succ count
  rw [firing, hfiring]
  split
  · exact hasFired_eq_true_iff.2
      ⟨_, rfl, Nat.le_trans (Nat.le_trans (Nat.min_le_left _ _) hfired) hdue⟩
  · exact hasFired_eq_true_iff.2 ⟨time, rfl, Nat.le_trans hfired hdue⟩

theorem hasFired_of_le {first second : Nat} (hle : first ≤ second)
    (h : hasFired (course.firing first) (course.due first) = true) :
    hasFired (course.firing second) (course.due second) = true := by
  induction hle with
  | refl => exact h
  | step _ ih => exact hasFired_succ ih

/-! ### Turns of the loop -/

/-- The loop with some attempts left, when the first `made` ones have been made. -/
def runAfter (course : Course α) (name : String) (remaining made : Nat) : Run α :=
  runFrom course.clock course.backoff name course.script remaining (made + 1) (course.due made)
    (course.firing made)

/-- One turn of the loop: it stops in front of an attempt, behind it or in the wait, or goes on. -/
inductive Turn (course : Course α) (name : String) (remaining made : Nat) : Run α → Prop
  | fired (hfired : hasFired (course.firing made) (course.due made) = true) :
      Turn course name remaining made ⟨.cancelled, [], course.due made, []⟩
  | ready {value : α} {log : List Log.Event}
      (hunfired : hasFired (course.firing made) (course.due made) = false)
      (hvalue : course.value? (made + 1) = some value) :
      Turn course name remaining made
        ⟨.ready value, [(made + 1, course.due made)], course.ended (made + 1), log⟩
  | exhausted {log : List Log.Event}
      (hunfired : hasFired (course.firing made) (course.due made) = false)
      (hmissed : course.value? (made + 1) = none) (hlast : remaining = 0) :
      Turn course name remaining made
        ⟨.exhausted, [(made + 1, course.due made)], course.ended (made + 1), log⟩
  | cancelled {time : Nat} {log : List Log.Event}
      (hunfired : hasFired (course.firing made) (course.due made) = false)
      (hmissed : course.value? (made + 1) = none) (hleft : remaining ≠ 0)
      (hfiring : course.firing (made + 1) = some time) (hseen : time ≤ course.due (made + 1)) :
      Turn course name remaining made
        ⟨.cancelled, [(made + 1, course.due made)], max (course.ended (made + 1)) time, log⟩
  | again {log : List Log.Event}
      (hunfired : hasFired (course.firing made) (course.due made) = false)
      (hmissed : course.value? (made + 1) = none) (hleft : remaining ≠ 0)
      (hwaited : ∀ time, course.firing (made + 1) = some time → course.due (made + 1) ≤ time) :
      Turn course name remaining made
        ((course.runAfter name remaining (made + 1)).after (made + 1) (course.due made) log)

theorem turn_runAfter (course : Course α) (name : String) (remaining made : Nat) :
    course.Turn name remaining made (course.runAfter name (remaining + 1) made) := by
  rw [runAfter, runFrom]
  dsimp only
  split
  next hfired => exact .fired hfired
  next hfired =>
    have hunfired := eq_false_of_ne_true hfired
    split
    next value hvalue => exact .ready hunfired hvalue
    next hmissed =>
      split
      next hlast => exact .exhausted hunfired hmissed hlast
      next hleft =>
        have hover : course.ended (made + 1) ≤ course.due (made + 1) := course.ended_le_due _
        split
        next time htime =>
          have hfiring : course.firing (made + 1) = some time := htime
          split
          next hseen =>
            refine .cancelled hunfired hmissed hleft hfiring ?_
            exact hseen.elim Nat.le_of_lt fun hended ↦ Nat.le_trans hended hover
          next hunseen =>
            refine .again hunfired hmissed hleft fun other hother ↦ ?_
            cases hfiring.symm.trans hother
            exact Nat.not_lt.1 fun hlt ↦ hunseen (Or.inl hlt)
        next hnone =>
          refine .again hunfired hmissed hleft fun other hother ↦ ?_
          cases hnone.symm.trans hother

/-! ### Runs -/

/-- Whether a run makes `count` attempts behind the first `made` ones, each when it is due, and then
ends. -/
structure Follows (course : Course α) (made count : Nat) (run : Run α) : Prop where
  attempts : run.attempts =
    (List.range' made count).map fun earlier ↦ (earlier + 1, course.due earlier)
  continues : ∀ earlier, made ≤ earlier → earlier < made + count → course.Continues earlier
  ends : course.Ends (made + count) run.outcome run.endedAt

theorem follows_nil {made : Nat} {run : Run α} (hattempts : run.attempts = [])
    (hends : course.Ends made run.outcome run.endedAt) : course.Follows made 0 run :=
  ⟨hattempts, fun _ hle hlt ↦ absurd hlt (Nat.not_lt.2 hle), hends⟩

/-- One attempt more, in front of the others. -/
theorem Follows.after {made count : Nat} {run : Run α}
    (hrest : course.Follows (made + 1) count run) (hcontinues : course.Continues made)
    (log : List Log.Event) :
    course.Follows made (count + 1) (run.after (made + 1) (course.due made) log) where
  attempts := by
    rw [Run.after, hrest.attempts, List.range'_succ, List.map_cons]
  continues earlier hle hlt := by
    rcases Nat.eq_or_lt_of_le hle with rfl | hlater
    · exact hcontinues
    · exact hrest.continues earlier hlater (by omega)
  ends := by
    have hcount : made + (count + 1) = made + 1 + count := by omega
    rw [hcount]
    exact hrest.ends

/-- An attempt behind which the polling ends. -/
theorem follows_one {made : Nat} {outcome : Outcome α} {endedAt : Nat} {log : List Log.Event}
    (hcontinues : course.Continues made) (hends : course.Ends (made + 1) outcome endedAt) :
    course.Follows made 1 ⟨outcome, [(made + 1, course.due made)], endedAt, log⟩ :=
  ⟨rfl, fun _ hle hlt ↦ (Nat.le_antisymm (Nat.le_of_lt_succ hlt) hle) ▸ hcontinues, hends⟩

/-- The loop makes the attempts of the course. The induction is on the number of attempts left; what
carries it is that a token that would have been seen during the wait has not fired. -/
theorem exists_follows (course : Course α) (name : String) (remaining : Nat) :
    ∀ made, made + remaining = course.backoff.maxAttempts → (remaining = 0 → made = 0) →
      course.value? made = none →
      (∀ time, course.firing made = some time → course.due made ≤ time) →
        ∃ count, course.Follows made count (course.runAfter name remaining made) := by
  induction remaining with
  | zero =>
    intro made hmade hzero hmissed _
    cases hzero rfl
    exact ⟨0, follows_nil rfl (.exhausted hmissed hmade)⟩
  | succ remaining ih =>
    intro made hmade _ hmissed hpending
    have hleft : made < course.backoff.maxAttempts := by omega
    have hturn := course.turn_runAfter name remaining made
    generalize course.runAfter name (remaining + 1) made = run at hturn
    cases hturn with
    | fired hfired =>
      obtain ⟨time, hfiring, hseen⟩ := hasFired_eq_true_iff.1 hfired
      -- the token fires just when the attempt is due
      have htime : time = course.due made := Nat.le_antisymm hseen (hpending time hfiring)
      have hends := Ends.cancelled hmissed hleft hfiring hseen
      rw [htime, Nat.max_eq_right (course.ended_le_due made)] at hends
      exact ⟨0, follows_nil rfl hends⟩
    | ready hunfired hvalue => exact ⟨1, follows_one ⟨hleft, hmissed, hunfired⟩ (.ready hvalue)⟩
    | exhausted hunfired hnext hlast =>
      exact ⟨1, follows_one ⟨hleft, hmissed, hunfired⟩ (.exhausted hnext (by omega))⟩
    | cancelled hunfired hnext hremaining hfiring hseen =>
      exact ⟨1, follows_one ⟨hleft, hmissed, hunfired⟩ (.cancelled hnext (by omega) hfiring hseen)⟩
    | again hunfired hnext hremaining hwaited =>
      obtain ⟨count, hrest⟩ :=
        ih (made + 1) (by omega) (fun h ↦ absurd h hremaining) hnext hwaited
      exact ⟨count + 1, hrest.after ⟨hleft, hmissed, hunfired⟩ _⟩

/-- The whole loop, from the first attempt on. -/
theorem exists_follows_run (course : Course α) (name : String) :
    ∃ count, course.Follows 0 count
      (Polling.run course.clock course.backoff name course.script course.firedAt) :=
  course.exists_follows name course.backoff.maxAttempts 0 (Nat.zero_add _) (fun _ ↦ rfl) rfl
    fun _ _ ↦ Nat.zero_le _

/-! ### The number of attempts -/

theorem not_continues_of_ends {count : Nat} {outcome : Outcome α} {endedAt : Nat}
    (h : course.Ends count outcome endedAt) : ¬ course.Continues count := by
  intro hcontinues
  cases h with
  | ready hvalue => exact Option.some_ne_none _ (hvalue.symm.trans hcontinues.missed)
  | exhausted _ hlast => exact Nat.lt_irrefl _ (hlast ▸ hcontinues.left)
  | cancelled _ _ hfiring hfired =>
    have hunfired := hcontinues.unfired
    rw [hasFired_eq_true_iff.2 ⟨_, hfiring, hfired⟩] at hunfired
    cases hunfired

/-- Attempts that follow one another are allowed. -/
theorem allows_of_continues {count : Nat}
    (h : ∀ earlier < count, course.Continues earlier) : course.Allows count where
  within := by
    cases count with
    | zero => exact Nat.zero_le _
    | succ count => exact (h count (Nat.lt_succ_self count)).left
  missed earlier hearlier := (h earlier hearlier).missed
  unfired earlier hcount := (h earlier (hcount ▸ Nat.lt_succ_self earlier)).unfired

/-- If more attempts are allowed, another one follows. -/
theorem Allows.continues {count more : Nat} (h : course.Allows more) (hlt : count < more) :
    course.Continues count where
  left := Nat.lt_of_lt_of_le hlt h.within
  missed := h.missed count hlt
  unfired := by
    obtain ⟨earlier, rfl⟩ := Nat.exists_eq_add_one.2 (Nat.zero_lt_of_lt hlt)
    refine eq_false_of_ne_true fun hfired ↦ ?_
    have hlater := hasFired_of_le (Nat.le_of_lt_succ hlt) hfired
    rw [h.unfired earlier rfl] at hlater
    cases hlater

/-- The attempts that are made are all that are allowed. -/
theorem Follows.isGreatest {count : Nat} {run : Run α} (h : course.Follows 0 count run) :
    IsGreatest {count | course.Allows count} count := by
  have hends := h.ends
  rw [Nat.zero_add] at hends
  refine ⟨allows_of_continues fun earlier hlt ↦ h.continues earlier (Nat.zero_le _) (by omega),
    fun more hmore ↦ Nat.not_lt.1 fun hlt ↦ ?_⟩
  exact not_continues_of_ends hends (hmore.continues hlt)

theorem Ends.value?_eq {count : Nat} {outcome : Outcome α} {endedAt : Nat}
    (h : course.Ends count outcome endedAt) : outcome.value? = course.value? count := by
  cases h with
  | ready hvalue => exact hvalue.symm
  | exhausted hmissed _ => exact hmissed.symm
  | cancelled hmissed _ _ _ => exact hmissed.symm

end Course

/-! ### What is logged -/

/-- An attempt without its events. -/
def Attempt.unlogged (attempt : Attempt α) : Attempt α := { attempt with log := [] }

/-- A run without its events. -/
def Run.unlogged (run : Run α) : Run α := { run with log := [] }

theorem Run.unlogged_after (run : Run α) (number start : Nat) (log : List Log.Event) :
    (run.after number start log).unlogged = run.unlogged.after number start [] := rfl

/-- What the attempts log decides nothing. -/
theorem unlogged_runFrom (clock : Clock) (backoff : Backoff) (name : String)
    (script : Nat → Attempt α) (remaining : Nat) : ∀ number now firedAt,
      (runFrom clock backoff name script remaining number now firedAt).unlogged =
        (runFrom clock backoff name (fun number ↦ (script number).unlogged) remaining number now
          firedAt).unlogged := by
  induction remaining with
  | zero => exact fun _ _ _ ↦ rfl
  | succ remaining ih =>
    intro number now firedAt
    unfold runFrom
    dsimp only [Attempt.unlogged] at ih ⊢
    split
    · rfl
    · split
      · rfl
      · split
        · rfl
        · generalize (if (script number).cancels then _ else firedAt) = firedAt
          cases firedAt with
          | none =>
            dsimp only
            rw [Run.unlogged_after, Run.unlogged_after, ih]
          | some time =>
            dsimp only
            split
            · rfl
            · rw [Run.unlogged_after, Run.unlogged_after, ih]

/-- The attempts of a polling are as many as are allowed, each made when it is due, and none when
the token has fired. The value of the last one is the outcome if it has a value, even if the token
fires during that attempt; without one the polling is exhausted if no attempt is left, and cancelled
otherwise. It ends when the last attempt is over, a cancelled one when the token has fired as well.
On the ideal clock, which is the virtual time that a schedule is meant in, the wait behind an
attempt is the delay of the backoff. A clock with milliseconds keeps to that as long as all times
are whole milliseconds within its range. On that clock a wait ends at the first whole millisecond at
which it is due or overdue, so that a wait of half a millisecond takes a whole one. -/
theorem polling_follows_schedule (course : Course α) (name : String) :
    let run := Polling.run course.clock course.backoff name course.script course.firedAt
    (∃ count, IsGreatest {count | course.Allows count} count ∧
      run.attempts = (List.range count).map (fun earlier ↦ (earlier + 1, course.due earlier)) ∧
      (∀ earlier < count, hasFired (course.firing earlier) (course.due earlier) = false) ∧
      (∀ value, run.outcome = .ready value ↔ course.value? count = some value) ∧
      (run.outcome = .exhausted ↔
        course.value? count = none ∧ count = course.backoff.maxAttempts) ∧
      (run.outcome = .cancelled ↔
        course.value? count = none ∧ count ≠ course.backoff.maxAttempts) ∧
      (run.outcome ≠ .cancelled → run.endedAt = course.ended count) ∧
      (run.outcome = .cancelled → ∃ time, course.firing count = some time ∧
        run.endedAt = max (course.ended count) time)) ∧
    ∀ count,
      let delay := (course.backoff.delayAfter (count + 1)).nanos
      course.clock = .ideal ∨
          (course.clock = .milliseconds ∧ nanosPerMilli ∣ course.ended (count + 1) ∧
            nanosPerMilli ∣ delay ∧
            course.ended (count + 1) + delay ≤ (UInt64.size - 3) * nanosPerMilli) →
        course.due (count + 1) = course.ended (count + 1) + delay := by
  intro run
  constructor
  · obtain ⟨count, hfollows⟩ := course.exists_follows name course.backoff.maxAttempts 0
      (Nat.zero_add _) (fun _ ↦ rfl) rfl fun _ _ ↦ Nat.zero_le _
    have hends : course.Ends count run.outcome run.endedAt := Nat.zero_add count ▸ hfollows.ends
    refine ⟨count, hfollows.isGreatest, ?_, fun earlier hlt ↦ ?_, ?_⟩
    · rw [List.range_eq_range']
      exact hfollows.attempts
    · exact (hfollows.continues earlier (Nat.zero_le _) (by omega)).unfired
    · generalize run.outcome = outcome, run.endedAt = endedAt at hends
      cases hends with
      | ready hvalue => simp [hvalue]
      | exhausted hmissed hlast => simp [hmissed, ← hlast]
      | cancelled hmissed hleft hfiring _ => simp [hmissed, Nat.ne_of_lt hleft, hfiring]
  · rintro count delay (hclock | ⟨hclock, hover, hdelay, hrange⟩)
    · rw [Course.due, hclock, Clock.firesAfter_ideal]
      rfl
    · rw [Course.due, hclock]
      exact Clock.firesAfter_milliseconds hover hdelay hrange

/-- Attempts without a value, and a token that fires in the wait behind the third. -/
theorem polling_follows_schedule_sample :
    let course : Course Nat :=
      { clock := .ideal
        backoff := { maxAttempts := 5 }
        script := fun _ ↦ {}
        firedAt := some (10 * nanosPerSecond) }
    let run := Polling.run course.clock course.backoff "search" course.script course.firedAt
    course.clock = .ideal ∧ course.Allows 3 ∧
      run.attempts = [(1, 0), (2, 3 * nanosPerSecond), (3, 9 * nanosPerSecond)] ∧
      run.outcome = .cancelled ∧ run.endedAt = 10 * nanosPerSecond := by
  intro course run
  obtain ⟨⟨count, hcount, hattempts, hunfired, _, _, hcancelled, _, hended⟩, hexact⟩ :=
    polling_follows_schedule course "search"
  have hdue : course.due 1 = 3 * nanosPerSecond := by
    rw [hexact 0 (Or.inl rfl)]
    decide
  have hdue' : course.due 2 = 9 * nanosPerSecond := by
    rw [hexact 1 (Or.inl rfl), Course.ended, hdue]
    decide
  have hallows : course.Allows 3 :=
    ⟨by decide, fun earlier _ ↦ by cases earlier <;> rfl, fun earlier hearlier ↦ by
      cases hearlier
      rw [hdue']
      decide⟩
  have hthree : count = 3 := by
    refine Nat.le_antisymm (Nat.not_lt.1 fun hlt ↦ ?_) (hcount.2 hallows)
    exact absurd (hunfired 3 hlt) (by decide)
  subst hthree
  have houtcome : run.outcome = .cancelled := hcancelled.2 ⟨rfl, by decide⟩
  obtain ⟨time, hfiring, htime⟩ := hended houtcome
  cases hfiring
  refine ⟨rfl, hallows, ?_, houtcome, htime.trans (by decide)⟩
  have hstart : course.due 0 = 0 := rfl
  rw [hattempts]
  simp [List.range_succ, hstart, hdue, hdue']

end Polling

end OverlayGateway
