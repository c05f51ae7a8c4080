import Mathlib.Algebra.BigOperators.Intervals
import Mathlib.Algebra.Order.Group.Nat
import OverlayGateway.Backoff
/-!
The whole wait of a schedule. Its closed form is the sum of the delays, each a multiple of the base
delay up to the cap, counted without a limit. Adding the delays one after the other, seconds and
nanoseconds apart and the seconds in 64 bits, gives the same and fails for the same schedules: those
whose sum is longer than the longest duration.
-/

set_option autoImplicit false
set_option relaxedAutoImplicit false

namespace OverlayGateway

namespace Duration

/-! ### Seconds and nanoseconds -/

theorem seconds_lt (d : Duration) : d.seconds < UInt64.size :=
  Nat.div_lt_of_lt_mul (Nat.mul_comm _ _ ▸ d.nanos_lt)

theorem subsecond_lt (d : Duration) : d.subsecond < nanosPerSecond :=
  Nat.mod_lt d.nanos (by decide)

theorem nanos_eq (d : Duration) : d.nanos = d.seconds * nanosPerSecond + d.subsecond :=
  (Nat.div_add_mod' d.nanos nanosPerSecond).symm

/-- A duration is taken apart into seconds and nanoseconds in one way. -/
theorem nanos_eq_iff {d : Duration} {seconds nanos : Nat} (hnanos : nanos < nanosPerSecond) :
    d.nanos = seconds * nanosPerSecond + nanos ↔ d.seconds = seconds ∧ d.subsecond = nanos := by
  have hparts := d.nanos_eq
  have hsubsecond := d.subsecond_lt
  unfold nanosPerSecond at *
  omega

/-! ### Sums of durations -/

theorem ofNanos?_eq_some_iff {nanos : Nat} {d : Duration} :
    ofNanos? nanos = some d ↔ d.nanos = nanos := by
  unfold ofNanos?
  split
  · rw [Option.some.injEq, Duration.ext_iff, eq_comm]
  · rename_i hrange
    refine iff_of_false (Option.some_ne_none d).symm fun hd ↦ hrange ?_
    rw [← hd]
    exact d.nanos_lt

theorem maxNanos_lt_iff {nanos : Nat} :
    maxNanos < nanos ↔ ¬ nanos < UInt64.size * 1000000000 := by
  have hpos : 0 < UInt64.size * 1000000000 := by decide
  unfold maxNanos
  omega

theorem ofNanos?_eq_none_iff {nanos : Nat} : ofNanos? nanos = none ↔ maxNanos < nanos := by
  rw [maxNanos_lt_iff]
  unfold ofNanos?
  split <;> simp [*]

/-- Seconds and nanoseconds that are counted apart. The nanoseconds are below 64 bits as long as no
more than 2^32 durations are counted. -/
structure Tally where
  seconds : Nat
  nanos : Nat

namespace Tally

/-- What is counted, in nanoseconds. -/
def total (tally : Tally) : Nat := tally.seconds * nanosPerSecond + tally.nanos

/-- Counts a duration in, unless the seconds then need more than 64 bits. -/
def add? (tally : Tally) (d : Duration) : Option Tally :=
  if tally.seconds + d.seconds < UInt64.size then
    some ⟨tally.seconds + d.seconds, tally.nanos + d.subsecond⟩
  else none

/-- Carries the nanoseconds over into the seconds, unless those then need more than 64 bits. -/
def carry? (tally : Tally) : Option Duration :=
  let seconds := tally.seconds + tally.nanos / nanosPerSecond
  if seconds < UInt64.size then
    ofNanos? (seconds * nanosPerSecond + tally.nanos % nanosPerSecond)
  else none

theorem carry?_eq (tally : Tally) : tally.carry? = ofNanos? tally.total := by
  have hsplit := Nat.div_add_mod' tally.nanos nanosPerSecond
  have hrest := Nat.mod_lt tally.nanos (show 0 < nanosPerSecond by decide)
  have htotal : (tally.seconds + tally.nanos / nanosPerSecond) * nanosPerSecond +
      tally.nanos % nanosPerSecond = tally.total := by
    rw [Nat.add_mul, Nat.add_assoc, hsplit, total]
  unfold carry?
  dsimp only
  rw [htotal]
  split
  · rfl
  · rename_i hseconds
    have hlimit : UInt64.size * 1000000000 ≤ tally.total := by
      rw [← htotal]
      exact Nat.le_add_right_of_le
        (Nat.mul_le_mul_right nanosPerSecond (Nat.not_lt.1 hseconds))
    exact (ofNanos?_eq_none_iff.2 (maxNanos_lt_iff.2 (Nat.not_lt.2 hlimit))).symm

end Tally

/-- The sum of some durations, added one after the other. -/
def sum? (durations : List Duration) : Option Duration := do
  let tally ← durations.foldlM Tally.add? ⟨0, 0⟩
  tally.carry?

/-- Adding durations one after the other fails if and only if the whole sum is too long: what has
been counted only grows. -/
theorem foldlM_add? (durations : List Duration) :
    ∀ tally : Tally, ((durations.foldlM Tally.add? tally) >>= Tally.carry?) =
      ofNanos? (tally.total + (durations.map nanos).sum) := by
  induction durations with
  | nil =>
    intro tally
    simpa using tally.carry?_eq
  | cons d durations ih =>
    intro tally
    have hparts := d.nanos_eq
    rw [List.foldlM_cons, List.map_cons, List.sum_cons]
    by_cases hseconds : tally.seconds + d.seconds < UInt64.size
    · have htotal : (⟨tally.seconds + d.seconds, tally.nanos + d.subsecond⟩ : Tally).total =
          tally.total + d.nanos := by
        simp only [Tally.total, Nat.add_mul]
        omega
      rw [Tally.add?, if_pos hseconds]
      change durations.foldlM Tally.add? _ >>= Tally.carry? = _
      rw [ih, htotal, Nat.add_assoc]
    · have hlimit : UInt64.size * 1000000000 ≤
          (tally.seconds + d.seconds) * nanosPerSecond :=
        Nat.mul_le_mul_right nanosPerSecond (Nat.not_lt.1 hseconds)
      rw [Nat.add_mul] at hlimit
      rw [Tally.add?, if_neg hseconds]
      refine (ofNanos?_eq_none_iff.2 (maxNanos_lt_iff.2 ?_)).symm
      rw [Tally.total]
      omega

theorem sum?_eq (durations : List Duration) :
    sum? durations = ofNanos? (durations.map nanos).sum := by
  have h := foldlM_add? durations ⟨0, 0⟩
  rwa [Tally.total, Nat.zero_mul, Nat.zero_add, Nat.zero_add] at h

end Duration

/-! ### The sum of the delays -/

namespace Backoff

/-- The nanoseconds of the delays that lie between the attempts. -/
def delaySum (backoff : Backoff) : Nat :=
  ∑ attempt ∈ Finset.Ico 1 backoff.maxAttempts,
    min (attempt * backoff.baseDelay.nanos) backoff.maxDelay.nanos

/-- An arithmetic series up to a cap: its members grow as long as they are within the cap. -/
theorem sum_min_mul {base cap : Nat} (hbase : 0 < base) (count : Nat) :
    ∑ attempt ∈ Finset.Ico 1 (count + 1), min (attempt * base) cap =
      base * (min count (cap / base) * (min count (cap / base) + 1) / 2) +
        (count - min count (cap / base)) * cap := by
  induction count with
  | zero => simp
  | succ count ih =>
    rw [Finset.sum_Ico_succ_top (Nat.le_add_left 1 count), ih]
    by_cases hgrows : count + 1 ≤ cap / base
    · have hmember : (count + 1) * base ≤ cap := (Nat.le_div_iff_mul_le hbase).1 hgrows
      have htriangle :
          (count + 1) * (count + 1 + 1) / 2 = count * (count + 1) / 2 + (count + 1) := by
        rw [Nat.mul_comm, Nat.mul_comm count]
        exact Nat.triangle_succ (count + 1)
      rw [Nat.min_eq_left hmember, Nat.min_eq_left hgrows, Nat.min_eq_left (by omega), htriangle]
      simp only [Nat.sub_self, Nat.zero_mul, Nat.add_zero]
      rw [Nat.mul_comm (count + 1) base, ← Nat.mul_add]
    · have hmember : cap ≤ (count + 1) * base :=
        Nat.le_of_lt (Nat.not_le.1 (mt (Nat.le_div_iff_mul_le hbase).2 hgrows))
      have hcapped : cap / base ≤ count := by omega
      rw [Nat.min_eq_right hmember, Nat.min_eq_right hcapped,
        Nat.min_eq_right (Nat.le_add_right_of_le hcapped), Nat.sub_add_comm hcapped,
        Nat.add_one_mul, Nat.add_assoc]

theorem totalNanos_eq (backoff : Backoff) : backoff.totalNanos = backoff.delaySum := by
  unfold totalNanos delaySum growingDelays
  split
  · rename_i hbase
    simp [hbase]
  · rename_i hbase
    cases hattempts : backoff.maxAttempts with
    | zero => simp
    | succ count =>
      rw [sum_min_mul (Nat.pos_of_ne_zero hbase), Nat.add_sub_cancel]

/-- The delays between the attempts, in order. -/
def delays (backoff : Backoff) : List Duration :=
  (List.range' 1 (backoff.maxAttempts - 1)).map backoff.delayAfter

theorem sum_delays (backoff : Backoff) :
    (backoff.delays.map Duration.nanos).sum = backoff.delaySum := by
  have hdelay : Duration.nanos ∘ backoff.delayAfter =
      fun attempt ↦ min (attempt * backoff.baseDelay.nanos) backoff.maxDelay.nanos :=
    funext fun attempt ↦ by
      rw [Function.comp_apply, nanos_delayAfter, Nat.mul_comm]
  rw [delays, List.map_map, hdelay]
  rfl

/-- The closed form is what adding the delays one after the other gives. -/
theorem totalWait?_eq_sum? (backoff : Backoff) :
    backoff.totalWait? = Duration.sum? backoff.delays := by
  rw [totalWait?, totalNanos_eq, Duration.sum?_eq, sum_delays]

theorem totalWait?_eq_some_iff {backoff : Backoff} {wait : Duration} :
    backoff.totalWait? = some wait ↔ wait.nanos = backoff.delaySum := by
  rw [totalWait?, totalNanos_eq, Duration.ofNanos?_eq_some_iff]

theorem totalWait?_eq_none_iff {backoff : Backoff} :
    backoff.totalWait? = none ↔ Duration.maxNanos < backoff.delaySum := by
  rw [totalWait?, totalNanos_eq, Duration.ofNanos?_eq_none_iff]

end Backoff

end OverlayGateway
