import OverlayGateway.Proofs.Backoff
/-!
One delay of a schedule. It is the multiple of the base delay, counted without a limit, up to the
cap. A machine counts it in words, the seconds apart from the nanoseconds beyond them, and takes the
longest duration for a product whose seconds need more than 64 bits (`Words.times`). The cap is no
longer than that, so nothing is seen of it: the words of a delay are those of the exact one
(`words_delayAfter`), below the limit and beyond it.
-/

set_option autoImplicit false
set_option relaxedAutoImplicit false

namespace OverlayGateway

/-! ### Durations in words -/

namespace Duration

/-- Whole seconds, and the nanoseconds beyond them. -/
@[ext] structure Words where
  seconds : UInt64
  nanos : UInt32
  deriving DecidableEq

def words (d : Duration) : Words := ⟨.ofNat d.seconds, .ofNat d.subsecond⟩

namespace Words

/-- The words of the longest duration. -/
def longest : Words := ⟨18446744073709551615, 999999999⟩

/-- The product of two words, unless it needs a longer one. -/
def mul? (a b : UInt64) : Option UInt64 :=
  if a.toNat * b.toNat < UInt64.size then some (a * b) else none

/-- The sum of two words, unless it needs a longer one. -/
def add? (a b : UInt64) : Option UInt64 :=
  if a.toNat + b.toNat < UInt64.size then some (a + b) else none

/-- A multiple, unless its seconds need a longer word. The nanoseconds are multiplied on their own,
and the whole seconds among them are carried over. -/
def times? (w : Words) (count : UInt32) : Option Words := do
  let nanos := w.nanos.toUInt64 * count.toUInt64
  let seconds ← mul? w.seconds count.toUInt64
  let seconds ← add? seconds (nanos / 1000000000)
  return ⟨seconds, (nanos % 1000000000).toUInt32⟩

/-- A multiple, or the longest duration. -/
def times (w : Words) (count : UInt32) : Words := (w.times? count).getD longest

/-- Fewer seconds, or as many and fewer nanoseconds. -/
def Before (a b : Words) : Prop :=
  a.seconds < b.seconds ∨ a.seconds = b.seconds ∧ a.nanos < b.nanos

instance (a b : Words) : Decidable (a.Before b) := inferInstanceAs (Decidable (_ ∨ _))

/-- The shorter one of two durations. -/
def least (a b : Words) : Words := if b.Before a then b else a

theorem mul?_eq_some_iff {a b c : UInt64} : mul? a b = some c ↔ c.toNat = a.toNat * b.toNat := by
  have hc := c.toNat_lt_size
  rw [mul?, Option.ite_none_right_eq_some, Option.some.injEq, ← UInt64.toNat_inj, UInt64.toNat_mul]
  constructor
  · rintro ⟨hfits, hproduct⟩
    rw [← hproduct, Nat.mod_eq_of_lt hfits]
  · intro hproduct
    rw [hproduct] at hc
    exact ⟨hc, (Nat.mod_eq_of_lt hc).trans hproduct.symm⟩

theorem add?_eq_some_iff {a b c : UInt64} : add? a b = some c ↔ c.toNat = a.toNat + b.toNat := by
  have hc := c.toNat_lt_size
  rw [add?, Option.ite_none_right_eq_some, Option.some.injEq, ← UInt64.toNat_inj, UInt64.toNat_add]
  constructor
  · rintro ⟨hfits, hsum⟩
    rw [← hsum, Nat.mod_eq_of_lt hfits]
  · intro hsum
    rw [hsum] at hc
    exact ⟨hc, (Nat.mod_eq_of_lt hc).trans hsum.symm⟩

end Words

@[simp] theorem toNat_seconds_words (d : Duration) : d.words.seconds.toNat = d.seconds :=
  UInt64.toNat_ofNat_of_lt' d.seconds_lt

@[simp] theorem toNat_nanos_words (d : Duration) : d.words.nanos.toNat = d.subsecond :=
  UInt32.toNat_ofNat_of_lt' (Nat.lt_trans d.subsecond_lt (by decide))

theorem words_eq_iff {d : Duration} {w : Words} :
    d.words = w ↔ d.seconds = w.seconds.toNat ∧ d.subsecond = w.nanos.toNat := by
  rw [Words.ext_iff, ← UInt64.toNat_inj, ← UInt32.toNat_inj, toNat_seconds_words,
    toNat_nanos_words]

/-- All seconds of a word and all nanoseconds below a second are parts of a duration. -/
theorem exists_parts (seconds : UInt64) {nanos : Nat} (hnanos : nanos < nanosPerSecond) :
    ∃ d : Duration, d.seconds = seconds.toNat ∧ d.subsecond = nanos := by
  have hseconds := seconds.toNat_lt_size
  have hrange : seconds.toNat * nanosPerSecond + nanos < UInt64.size * 1000000000 := by
    unfold nanosPerSecond at *
    omega
  exact ⟨⟨_, hrange⟩, (nanos_eq_iff hnanos).1 rfl⟩

protected theorem le_refl (d : Duration) : d ≤ d := Nat.le_refl d.nanos

/-! ### Multiples in words -/

section Multiples

variable (d : Duration) (count : UInt32)

/-- The product of the nanoseconds needs no longer word. -/
theorem toNat_mul_nanos :
    (d.words.nanos.toUInt64 * count.toUInt64).toNat = d.subsecond * count.toNat := by
  have hfits : d.subsecond * count.toNat < 2 ^ 64 :=
    Nat.lt_trans (Nat.mul_lt_mul'' d.subsecond_lt count.toNat_lt) (by decide)
  rw [UInt64.toNat_mul, UInt32.toNat_toUInt64, UInt32.toNat_toUInt64, toNat_nanos_words,
    Nat.mod_eq_of_lt hfits]

theorem toNat_carried :
    (d.words.nanos.toUInt64 * count.toUInt64 / 1000000000).toNat =
      d.subsecond * count.toNat / nanosPerSecond := by
  rw [UInt64.toNat_div, toNat_mul_nanos]
  rfl

theorem toNat_kept :
    (d.words.nanos.toUInt64 * count.toUInt64 % 1000000000).toUInt32.toNat =
      d.subsecond * count.toNat % nanosPerSecond := by
  have hkept : d.subsecond * count.toNat % nanosPerSecond < 2 ^ 32 :=
    Nat.lt_trans (Nat.mod_lt _ (by decide)) (by decide : nanosPerSecond < 2 ^ 32)
  rw [UInt64.toNat_toUInt32, UInt64.toNat_mod, toNat_mul_nanos]
  exact Nat.mod_eq_of_lt hkept

/-- Whole seconds among the nanoseconds of a product belong to its seconds. -/
theorem nanos_mul_eq (count : Nat) :
    d.nanos * count =
      (d.seconds * count + d.subsecond * count / nanosPerSecond) * nanosPerSecond +
        d.subsecond * count % nanosPerSecond := by
  rw [nanos_eq d, Nat.add_mul, Nat.add_mul, Nat.add_assoc, Nat.div_add_mod', Nat.mul_right_comm]

/-- The product of words is the exact one if that is a duration, and else there is none. -/
theorem times?_words : d.words.times? count = (ofNanos? (d.nanos * count.toNat)).map words := by
  have hkept : d.subsecond * count.toNat % nanosPerSecond < nanosPerSecond :=
    Nat.mod_lt _ (by decide)
  ext w
  simp only [Words.times?, Option.bind_eq_bind, Option.bind_eq_some_iff, Option.pure_def,
    Option.some.injEq, Option.map_eq_some_iff, Words.mul?_eq_some_iff, Words.add?_eq_some_iff,
    ofNanos?_eq_some_iff, nanos_mul_eq d, nanos_eq_iff hkept, UInt32.toNat_toUInt64,
    toNat_seconds_words, toNat_carried]
  constructor
  · rintro ⟨product, hproduct, sum, hsum, rfl⟩
    rw [hproduct] at hsum
    obtain ⟨e, hparts⟩ := exists_parts sum hkept
    rw [hsum] at hparts
    exact ⟨e, hparts, words_eq_iff.2 ⟨hparts.1.trans hsum.symm, by rw [hparts.2, toNat_kept]⟩⟩
  · rintro ⟨e, ⟨hseconds, hsubsecond⟩, rfl⟩
    have hproduct : d.seconds * count.toNat < UInt64.size :=
      Nat.lt_of_le_of_lt (Nat.le_add_right _ _) (hseconds ▸ e.seconds_lt)
    refine ⟨.ofNat (d.seconds * count.toNat), UInt64.toNat_ofNat_of_lt' hproduct, e.words.seconds,
      ?_, (words_eq_iff.2 ⟨?_, ?_⟩).symm⟩
    · rw [toNat_seconds_words, UInt64.toNat_ofNat_of_lt' hproduct, hseconds]
    · rw [toNat_seconds_words]
    · rw [hsubsecond, toNat_kept]

theorem words_saturate_of_lt {n : Nat} (h : maxNanos < n) : (saturate n).words = Words.longest := by
  have hlongest : saturate n = ⟨maxNanos, by decide⟩ :=
    Duration.ext (Nat.min_eq_right (Nat.le_of_lt h))
  rw [hlongest]
  decide

/-- The product of words is the longest duration where the exact one is too long. -/
theorem words_times : (d.times count.toNat).words = d.words.times count := by
  rw [Words.times, times?_words]
  cases hproduct : ofNanos? (d.nanos * count.toNat) with
  | none => exact words_saturate_of_lt (ofNanos?_eq_none_iff.1 hproduct)
  | some product =>
    have hexact := ofNanos?_eq_some_iff.1 hproduct
    have hsame : d.times count.toNat = product := by
      ext
      rw [times, nanos_saturate, ← hexact, Nat.min_eq_left product.nanos_le_maxNanos]
    rw [hsame]
    rfl

end Multiples

theorem before_words_iff {d e : Duration} : d.words.Before e.words ↔ d < e := by
  have hlt : d < e ↔ d.nanos < e.nanos := Iff.rfl
  rw [hlt, Words.Before, UInt64.lt_iff_toNat_lt, UInt32.lt_iff_toNat_lt, ← UInt64.toNat_inj,
    toNat_seconds_words, toNat_seconds_words, toNat_nanos_words, toNat_nanos_words, nanos_eq d,
    nanos_eq e]
  have hd := d.subsecond_lt
  have he := e.subsecond_lt
  unfold nanosPerSecond at *
  omega

theorem words_min (d e : Duration) : (min d e).words = d.words.least e.words := by
  have hmin : min d e = if d ≤ e then d else e := rfl
  rw [hmin, Words.least]
  by_cases hbefore : e < d
  · have hlonger : ¬ d ≤ e := Nat.not_le.2 hbefore
    rw [if_neg hlonger, if_pos (before_words_iff.2 hbefore)]
  · have hshorter : d ≤ e := Nat.not_lt.1 hbefore
    rw [if_pos hshorter, if_neg (mt before_words_iff.1 hbefore)]

end Duration

/-! ### Delays -/

namespace Backoff

variable (backoff : Backoff)

/-- A delay as a machine counts it. -/
def delayWords (attempt : UInt32) : Duration.Words :=
  (backoff.baseDelay.words.times attempt).least backoff.maxDelay.words

theorem words_delayAfter (attempt : UInt32) :
    (backoff.delayAfter attempt.toNat).words = backoff.delayWords attempt := by
  rw [delayAfter, Duration.words_min, Duration.words_times, delayWords]

theorem delayAfter_le_maxDelay (attempt : Nat) : backoff.delayAfter attempt ≤ backoff.maxDelay := by
  rw [Duration.le_def, nanos_delayAfter]
  exact Nat.min_le_right _ _

/-- The delay grows with the attempt, the base delay and the cap. -/
theorem delayAfter_mono {backoff longer : Backoff} {attempt later : Nat}
    (hbase : backoff.baseDelay ≤ longer.baseDelay) (hcap : backoff.maxDelay ≤ longer.maxDelay)
    (hattempt : attempt ≤ later) : backoff.delayAfter attempt ≤ longer.delayAfter later := by
  rw [Duration.le_def] at hbase hcap
  rw [Duration.le_def, nanos_delayAfter, nanos_delayAfter]
  have hproduct := Nat.mul_le_mul hbase hattempt
  omega

theorem delayAfter_eq_maxDelay_of_le {attempt later : Nat}
    (hreached : backoff.delayAfter attempt = backoff.maxDelay) (hlater : attempt ≤ later) :
    backoff.delayAfter later = backoff.maxDelay := by
  have hgrown := delayAfter_mono (Duration.le_refl backoff.baseDelay)
    (Duration.le_refl backoff.maxDelay) hlater
  rw [hreached] at hgrown
  exact Duration.ext (Nat.le_antisymm (backoff.delayAfter_le_maxDelay later) hgrown)

/-- The delay after every attempt is the shorter one of the cap and the exact multiple of the base
delay. A machine that multiplies seconds and nanoseconds in words comes to the same, also where the
multiple is longer than any duration and its product therefore none. The delay never exceeds the
cap, grows with the attempt, with the base delay and with the cap, and stays at the cap once it has
reached it. -/
theorem delay_linear_up_to_cap (backoff : Backoff) :
    (∀ attempt, (backoff.delayAfter attempt).nanos =
        min (attempt * backoff.baseDelay.nanos) backoff.maxDelay.nanos) ∧
      (∀ attempt : UInt32,
        (backoff.delayAfter attempt.toNat).words =
            (backoff.baseDelay.words.times attempt).least backoff.maxDelay.words ∧
          (backoff.baseDelay.words.times? attempt = none ↔
            Duration.maxNanos < attempt.toNat * backoff.baseDelay.nanos)) ∧
      (∀ attempt, backoff.delayAfter attempt ≤ backoff.maxDelay) ∧
      (∀ attempt later, attempt ≤ later →
        backoff.delayAfter attempt ≤ backoff.delayAfter later) ∧
      (∀ attempt longer, backoff.baseDelay ≤ longer →
        backoff.delayAfter attempt ≤ { backoff with baseDelay := longer }.delayAfter attempt) ∧
      (∀ attempt longer, backoff.maxDelay ≤ longer →
        backoff.delayAfter attempt ≤ { backoff with maxDelay := longer }.delayAfter attempt) ∧
      ∀ attempt later, backoff.delayAfter attempt = backoff.maxDelay → attempt ≤ later →
        backoff.delayAfter later = backoff.maxDelay := by
  have hbase := Duration.le_refl backoff.baseDelay
  have hcap := Duration.le_refl backoff.maxDelay
  refine ⟨fun attempt ↦ ?exact, fun attempt ↦ ⟨?words, ?limit⟩, backoff.delayAfter_le_maxDelay,
    fun attempt later hlater ↦ delayAfter_mono hbase hcap hlater,
    fun attempt longer hlonger ↦ delayAfter_mono hlonger hcap (Nat.le_refl attempt),
    fun attempt longer hlonger ↦ delayAfter_mono hbase hlonger (Nat.le_refl attempt),
    fun attempt later ↦ backoff.delayAfter_eq_maxDelay_of_le⟩
  case exact => rw [nanos_delayAfter, Nat.mul_comm]
  case words => exact backoff.words_delayAfter attempt
  case limit =>
    rw [Duration.times?_words, Option.map_eq_none_iff, Duration.ofNanos?_eq_none_iff, Nat.mul_comm]

/-- Half of the longest duration and half a second: the second multiple is too long for a duration,
and the delay stays at a cap that is the longest one; with a lower cap it is shorter. -/
theorem delay_linear_up_to_cap_sample :
    let base : Duration := ⟨9223372036854775808500000000, by decide⟩
    let longest : Duration := ⟨18446744073709551615999999999, by decide⟩
    let backoff : Backoff := ⟨5, base, longest⟩
    base.words = ⟨9223372036854775808, 500000000⟩ ∧ backoff.delayAfter 1 = base ∧
      base.words.times? 2 = none ∧ backoff.delayAfter 2 = longest ∧ backoff.delayAfter 4 = longest ∧
      { backoff with maxDelay := base }.delayAfter 4 ≤ backoff.delayAfter 4 := by
  intro base longest backoff
  obtain ⟨-, hwords, -, -, -, -, hstays⟩ := delay_linear_up_to_cap backoff
  obtain ⟨-, -, -, -, -, hcap, -⟩ := delay_linear_up_to_cap { backoff with maxDelay := base }
  have hreached : backoff.delayAfter 2 = longest := by decide
  refine ⟨by decide, by decide, (hwords 2).2.2 ?_, hreached, hstays 2 4 hreached (by decide),
    hcap 4 longest ?_⟩
  · decide
  · decide

end Backoff

end OverlayGateway
