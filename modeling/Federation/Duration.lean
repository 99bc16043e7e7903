/-
Federation/Duration.lean

Lengths of time that cannot be negative.

A duration is a count of whole nanoseconds up to the greatest that 64-bit
seconds and a fraction can hold. Durations serve for settings and for the pauses
between attempts; the interval of a duration is what the federate's clock can
count of it, and the duration of a negative interval is nought.
-/
import Federation.Time.Instant

namespace Federation

/-- A length of time. -/
@[ext] structure Duration where
  /-- The number of nanoseconds. -/
  nanos : Nat
  le_max : nanos ≤ 18446744073709551615999999999 := by decide
deriving DecidableEq

namespace Duration

/-- The greatest number of nanoseconds of a duration. -/
def maxNanos : Nat := 18446744073709551615999999999

/-- No time at all. -/
def zero : Duration := ⟨0, by decide⟩

instance : Inhabited Duration := ⟨zero⟩

/-- The duration of `n` nanoseconds, or the greatest there is. -/
def clamp (n : Nat) : Duration :=
  ⟨min n 18446744073709551615999999999, Nat.min_le_right _ _⟩

/-- The duration of `n` milliseconds, or the greatest there is. -/
def ofMillis (n : Nat) : Duration := clamp (n * 1000000)

/-- The duration of `n` seconds, or the greatest there is. -/
def ofSeconds (n : Nat) : Duration := clamp (n * 1000000000)

/-- The duration of `n` nanoseconds, if there is one. -/
def ofNanos? (n : Nat) : Option Duration :=
  if h : n ≤ 18446744073709551615999999999 then some ⟨n, h⟩ else none

/-- The duration of so many seconds and nanoseconds, if there is one. -/
def ofParts? (seconds nanos : Nat) : Option Duration :=
  ofNanos? (seconds * 1000000000 + nanos)

/-- The whole seconds. -/
def seconds (d : Duration) : Nat := d.nanos / 1000000000

/-- The nanoseconds beyond the whole seconds. -/
def subsecond (d : Duration) : Nat := d.nanos % 1000000000

/-- Whether no time passes. -/
def isZero (d : Duration) : Bool := d.nanos == 0

/-- The duration taken `n` times, or the greatest there is. -/
def saturatingMul (d : Duration) (n : Nat) : Duration := clamp (d.nanos * n)

/-- The shorter of two durations. -/
def shorter (a b : Duration) : Duration := if a.nanos ≤ b.nanos then a else b

end Duration

/-- The interval as long as the duration, or the longest there is. -/
def Interval.ofDuration (d : Duration) : Interval := .clamp d.nanos

/-- The duration as long as the interval; none at all if it points backwards. -/
def Interval.toDuration (d : Interval) : Duration := .clamp d.ns.toNat

end Federation
