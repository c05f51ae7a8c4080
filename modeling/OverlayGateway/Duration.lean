/-!
Spans of time, counted in nanoseconds up to the longest one: 2^64 - 1 seconds and 999 999 999
nanoseconds. Multiplication saturates there, addition fails beyond it.
-/

set_option autoImplicit false
set_option relaxedAutoImplicit false

namespace OverlayGateway

def nanosPerSecond : Nat := 1000000000

def nanosPerMilli : Nat := 1000000

/-- A span of time no longer than the longest representable one. -/
@[ext] structure Duration where
  nanos : Nat
  nanos_lt : nanos < UInt64.size * 1000000000
  deriving DecidableEq

namespace Duration

/-- The length of the longest duration. -/
def maxNanos : Nat := UInt64.size * 1000000000 - 1

/-- The duration of `n` nanoseconds, or the longest one when `n` is out of range. -/
def saturate (n : Nat) : Duration :=
  ⟨min n maxNanos, by simp only [maxNanos, UInt64.size]; omega⟩

/-- The duration of exactly `n` nanoseconds. -/
def ofNanos? (n : Nat) : Option Duration :=
  if h : n < UInt64.size * 1000000000 then some ⟨n, h⟩ else none

def ofSeconds (s : Nat) : Duration := saturate (s * nanosPerSecond)

def ofMillis (ms : Nat) : Duration := saturate (ms * nanosPerMilli)

def zero : Duration := ⟨0, by decide⟩

instance : Inhabited Duration := ⟨zero⟩

/-- Whole seconds in the duration. -/
def seconds (d : Duration) : Nat := d.nanos / nanosPerSecond

/-- Nanoseconds beyond the whole seconds. -/
def subsecond (d : Duration) : Nat := d.nanos % nanosPerSecond

/-- The multiple of a duration, or the longest duration when that is out of range. -/
def times (d : Duration) (k : Nat) : Duration := saturate (d.nanos * k)

instance : LE Duration := ⟨fun a b ↦ a.nanos ≤ b.nanos⟩

instance : LT Duration := ⟨fun a b ↦ a.nanos < b.nanos⟩

instance (a b : Duration) : Decidable (a ≤ b) := inferInstanceAs (Decidable (a.nanos ≤ b.nanos))

instance (a b : Duration) : Decidable (a < b) := inferInstanceAs (Decidable (a.nanos < b.nanos))

instance : Min Duration := ⟨fun a b ↦ if a ≤ b then a else b⟩

theorem le_def {a b : Duration} : a ≤ b ↔ a.nanos ≤ b.nanos := Iff.rfl

@[simp] theorem nanos_saturate (n : Nat) : (saturate n).nanos = min n maxNanos := rfl

@[simp] theorem nanos_min (a b : Duration) : (min a b).nanos = min a.nanos b.nanos := by
  change (if a ≤ b then a else b).nanos = min a.nanos b.nanos
  by_cases h : a.nanos ≤ b.nanos
  · rw [if_pos (le_def.2 h), Nat.min_eq_left h]
  · rw [if_neg (fun h' ↦ h (le_def.1 h')), Nat.min_eq_right (by omega)]

theorem nanos_le_maxNanos (d : Duration) : d.nanos ≤ maxNanos := by
  have := d.nanos_lt
  simp only [maxNanos, UInt64.size] at this ⊢
  omega

end Duration

end OverlayGateway
