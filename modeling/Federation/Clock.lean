/-
Federation/Clock.lean

The clock of a federate.

A clock shows the local time, shifted by an offset. The local time is not under
the program's control: it is given as the sequence of what it reads, one reading
after another. The offset may be set, or adjusted by a correction; an adjusted
offset starts again at the other end of its range when it leaves it, while the
offset that the adjustment reports stops at the end.
-/
import Federation.Time.Instant

namespace Federation

/-- The shift of a clock against the local time. -/
abbrev ClockOffset := Interval

namespace ClockOffset

/-- Adds a correction to an offset. The result is the offset in force, and the
one reported. -/
def adjust (offset : ClockOffset) (delta : Interval) : ClockOffset × Interval :=
  (⟨Nanos.wrap (offset.ns + delta.ns), Nanos.inRange_wrap _⟩,
    .clamp (offset.ns + delta.ns))

end ClockOffset

/-- A clock: its offset, what the local time reads, and how often it was read. -/
structure Clock where
  offset : ClockOffset := .zero
  /-- The readings of the local time, in order. -/
  readings : Nat → Instant
  /-- The number of readings so far. -/
  readCount : Nat := 0

namespace Clock

/-- What the clock shows at the next reading. -/
def now (c : Clock) : Instant := (c.readings c.readCount).saturatingAdd c.offset

/-- The clock after one more reading. -/
def tick (c : Clock) : Clock := { c with readCount := c.readCount + 1 }

/-- The clock with another offset. -/
def setOffset (c : Clock) (offset : ClockOffset) : Clock := { c with offset }

/-- The clock after a correction, and the offset that is reported. -/
def adjust (c : Clock) (delta : Interval) : Clock × Interval :=
  let (offset, reported) := c.offset.adjust delta
  ({ c with offset }, reported)

variable (c : Clock) (delta : Interval)

/-- A reading moves nothing but the count of readings. -/
@[simp] theorem tick_offset : c.tick.offset = c.offset := rfl

@[simp] theorem tick_readings : c.tick.readings = c.readings := rfl

@[simp] theorem tick_readCount : c.tick.readCount = c.readCount + 1 := rfl

/-- The offset in force starts again at the other end of its range. -/
@[simp] theorem ns_offset_adjust :
    (c.adjust delta).1.offset.ns = Nanos.wrap (c.offset.ns + delta.ns) := rfl

/-- The reported one stops at the end. -/
@[simp] theorem ns_reported_adjust :
    (c.adjust delta).2.ns = Nanos.clamp (c.offset.ns + delta.ns) := rfl

end Clock

end Federation
