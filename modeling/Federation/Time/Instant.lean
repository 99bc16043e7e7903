/-
Federation/Time/Instant.lean

Instants and intervals.

Time is counted in whole nanoseconds in the signed 64-bit range. `Instant` is a
point in time and `Interval` a signed distance between two points; both carry
the proof that their count lies in the range, so that no operation can leave it
unnoticed. An operation that could leave the range says in its name what happens
then: `checkedAdd` refuses, `saturatingAdd` and `since` stop at the nearer end,
and `Nanos.wrap` starts again at the other end.

The two ends of the range serve as the instants `never` and `forever` and print
as such.
-/

namespace Federation

namespace Nanos

/-- A count of nanoseconds that fits in the signed 64-bit range. -/
abbrev InRange (n : Int) : Prop :=
  -9223372036854775808 ≤ n ∧ n ≤ 9223372036854775807

/-- The count in the range that is nearest to `n`. -/
def clamp (n : Int) : Int :=
  max (-9223372036854775808) (min n 9223372036854775807)

/-- The count in the range that differs from `n` by a multiple of `2 ^ 64`. -/
def wrap (n : Int) : Int :=
  (n + 9223372036854775808) % 18446744073709551616 - 9223372036854775808

theorem inRange_clamp (n : Int) : InRange (clamp n) := by
  unfold InRange clamp; omega

theorem inRange_wrap (n : Int) : InRange (wrap n) := by
  unfold InRange wrap; omega

/-- What is in the range is the nearest there is. -/
theorem clamp_of_inRange {n : Int} (h : InRange n) : clamp n = n := by
  unfold InRange at h; unfold clamp; omega

/-- What is in the range stays. -/
theorem wrap_of_inRange {n : Int} (h : InRange n) : wrap n = n := by
  unfold InRange at h; unfold wrap; omega

end Nanos

/-- A signed distance in time. -/
@[ext] structure Interval where
  /-- The number of nanoseconds. -/
  ns : Int
  inRange : Nanos.InRange ns := by decide
deriving DecidableEq

/-- A point in time, counted from the epoch. -/
@[ext] structure Instant where
  /-- The number of nanoseconds since the epoch. -/
  ns : Int
  inRange : Nanos.InRange ns := by decide
deriving DecidableEq

namespace Interval

/-- The interval of length nought. -/
def zero : Interval := ⟨0, by decide⟩

instance : Inhabited Interval := ⟨zero⟩

/-- The interval nearest to `n` nanoseconds. -/
def clamp (n : Int) : Interval := ⟨Nanos.clamp n, Nanos.inRange_clamp n⟩

/-- The interval of `n` nanoseconds, if `n` is in the range. -/
def ofNanos? (n : Int) : Option Interval :=
  if h : Nanos.InRange n then some ⟨n, h⟩ else none

/-- An interval of `n` microseconds, or the nearest there is. -/
def ofMicros (n : Int) : Interval := clamp (n * 1000)

/-- An interval of `n` milliseconds, or the nearest there is. -/
def ofMillis (n : Int) : Interval := clamp (n * 1000000)

/-- An interval of `n` seconds, or the nearest there is. -/
def ofSeconds (n : Int) : Interval := clamp (n * 1000000000)

/-- Whether the interval points backwards. -/
def isNegative (d : Interval) : Bool := d.ns < 0

instance : LE Interval := ⟨fun a b => a.ns ≤ b.ns⟩
instance : LT Interval := ⟨fun a b => a.ns < b.ns⟩
instance : DecidableLE Interval :=
  fun a b => inferInstanceAs (Decidable (a.ns ≤ b.ns))
instance : DecidableLT Interval :=
  fun a b => inferInstanceAs (Decidable (a.ns < b.ns))
instance : Ord Interval := ⟨fun a b => compare a.ns b.ns⟩

/-- An interval prints as its count and the unit. -/
def render (d : Interval) : String := toString d.ns ++ "ns"

@[simp] theorem ns_zero : zero.ns = 0 := rfl

@[simp] theorem ns_clamp (n : Int) : (clamp n).ns = Nanos.clamp n := rfl

theorem le_def {a b : Interval} : a ≤ b ↔ a.ns ≤ b.ns := .rfl

end Interval

/-- Why two times could not be added. -/
inductive TimeError where
  /-- The sum lies outside the range. -/
  | overflow (time : Instant) (delay : Interval)
  /-- A delay points backwards. -/
  | negative (delay : Interval)
deriving DecidableEq

namespace Instant

/-- Earlier than any other instant. -/
def never : Instant := ⟨-9223372036854775808, by decide⟩

/-- Later than any other instant. -/
def forever : Instant := ⟨9223372036854775807, by decide⟩

/-- The epoch. -/
def epoch : Instant := ⟨0, by decide⟩

instance : Inhabited Instant := ⟨epoch⟩

/-- The instant nearest to `n` nanoseconds after the epoch. -/
def clamp (n : Int) : Instant := ⟨Nanos.clamp n, Nanos.inRange_clamp n⟩

/-- The instant `n` nanoseconds after the epoch, if `n` is in the range. -/
def ofNanos? (n : Int) : Option Instant :=
  if h : Nanos.InRange n then some ⟨n, h⟩ else none

instance : LE Instant := ⟨fun a b => a.ns ≤ b.ns⟩
instance : LT Instant := ⟨fun a b => a.ns < b.ns⟩
instance : DecidableLE Instant :=
  fun a b => inferInstanceAs (Decidable (a.ns ≤ b.ns))
instance : DecidableLT Instant :=
  fun a b => inferInstanceAs (Decidable (a.ns < b.ns))
instance : Ord Instant := ⟨fun a b => compare a.ns b.ns⟩

/-- The instant `d` after `t`; refused if it lies outside the range. -/
def checkedAdd (t : Instant) (d : Interval) : Except TimeError Instant :=
  if h : Nanos.InRange (t.ns + d.ns) then .ok ⟨t.ns + d.ns, h⟩
    else .error (.overflow t d)

/-- The instant `d` after `t`, or the end of the range in that direction. It
serves deadlines, where "unreachably far" is the right answer. -/
def saturatingAdd (t : Instant) (d : Interval) : Instant := clamp (t.ns + d.ns)

/-- The signed distance from `earlier` to `t`, or the nearest there is. -/
def since (t earlier : Instant) : Interval := .clamp (t.ns - earlier.ns)

/-- An instant prints as its count and the unit, the two ends of the range by
name. -/
def render (t : Instant) : String :=
  if t = never then "NEVER" else if t = forever then "FOREVER"
    else toString t.ns ++ "ns"

variable (t : Instant) (d : Interval)

/-- A sum beyond the range stops at its end. -/
@[simp] theorem ns_saturatingAdd :
    (t.saturatingAdd d).ns = Nanos.clamp (t.ns + d.ns) := rfl

@[simp] theorem ns_since (earlier : Instant) :
    (t.since earlier).ns = Nanos.clamp (t.ns - earlier.ns) := rfl

end Instant

/-- The text of a failed addition. -/
def TimeError.message : TimeError → String
  | .overflow time delay =>
    "time overflow: " ++ time.render ++ " + " ++ delay.render
  | .negative delay => "negative interval: " ++ delay.render

end Federation
