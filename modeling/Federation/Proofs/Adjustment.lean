/-
Federation/Proofs/Adjustment.lean

The offset that an adjustment reports, and the offset in force.

An adjustment adds a correction to the offset of a clock twice. The sum that
goes into force starts again at the other end of the range when it leaves it,
and the sum that is reported stops at the end. Both are the exact sum where
there is room for it, and nowhere else are they one (`Nanos.clamp_eq_wrap_iff`).

All clones of a clock share its offset, and each of them changes it in one
piece. So whatever is done through any of them is one row of moves
(`ClockMove`), and the row is compared with the same row on integers without a
limit (`ClockMove.exact`). To start again at the other end is to lose a multiple
of the size of the range, so the offset in force is the exact one but for such a
multiple (`ns_offset_moved`, by induction at the right end of the row): an
offset that has left the range comes back with the corrections that lead back.
-/
import Mathlib
import Federation.Clock

namespace Federation

/-! ### Sums that leave the range -/

namespace Nanos

/-- What was lost of a summand is lost of the sum. -/
theorem wrap_wrap_add (a b : Int) : wrap (wrap a + b) = wrap (a + b) := by
  unfold wrap
  omega

/-- The two ways to keep a sum in the range agree if it lies there, and only
then. -/
theorem clamp_eq_wrap_iff {a b : Int} (ha : InRange a) (hb : InRange b) :
    clamp (a + b) = wrap (a + b) ↔ InRange (a + b) := by
  constructor
  · intro h
    -- beyond one end the one sum stops there, and the other is short of it by
    -- one at least
    unfold clamp wrap at h
    omega
  · intro h
    rw [clamp_of_inRange h, wrap_of_inRange h]

end Nanos

/-! ### Rows of moves -/

/-- What may be done to a clock through any of its clones. -/
inductive ClockMove where
  | read
  | set (offset : ClockOffset)
  | adjust (delta : Interval)

/-- The offset after a move, in numbers without a limit. -/
def ClockMove.exact (offset : Int) : ClockMove → Int
  | read => offset
  | set offset' => offset'.ns
  | adjust delta => offset + delta.ns

namespace Clock

/-- The clock after a move. -/
def move (c : Clock) : ClockMove → Clock
  | .read => c.tick
  | .set offset => c.setOffset offset
  | .adjust delta => (c.adjust delta).1

/-- The clock after a row of moves. -/
def moved (c : Clock) (moves : List ClockMove) : Clock := moves.foldl move c

variable {c : Clock} {delta : Interval}

/-- One move keeps the offset that is in force the exact one, but for what is
lost. -/
theorem ns_offset_move {exact : Int} (h : c.offset.ns = Nanos.wrap exact)
    (m : ClockMove) :
    (c.move m).offset.ns = Nanos.wrap (m.exact exact) := by
  cases m with
  | read => exact h
  | set offset => exact (Nanos.wrap_of_inRange offset.inRange).symm
  | adjust delta =>
    rw [move, ns_offset_adjust, h, Nanos.wrap_wrap_add]
    rfl

/-- The offset after a row of moves is the exact one, but for what is lost. -/
theorem ns_offset_moved (c : Clock) (moves : List ClockMove) :
    (c.moved moves).offset.ns
      = Nanos.wrap (moves.foldl ClockMove.exact c.offset.ns) := by
  induction moves using List.reverseRecOn with
  | nil => exact (Nanos.wrap_of_inRange c.offset.inRange).symm
  | append_singleton moves m ih =>
    rw [moved, List.foldl_concat, List.foldl_concat]
    exact ns_offset_move ih m

/-! ### One adjustment -/

/-- What an adjustment reports is in force exactly if the sum lies in the range. -/
theorem reported_eq_offset_iff :
    (c.adjust delta).2 = (c.adjust delta).1.offset ↔
      Nanos.InRange (c.offset.ns + delta.ns) := by
  rw [Interval.ext_iff, ns_offset_adjust, ns_reported_adjust,
    Nanos.clamp_eq_wrap_iff c.offset.inRange delta.inRange]

/-- A correction onward does not lower the offset, exactly if the sum lies in
the range. -/
theorem offset_le_adjust_iff (h : 0 < delta.ns) :
    c.offset ≤ (c.adjust delta).1.offset ↔
      Nanos.InRange (c.offset.ns + delta.ns) := by
  rw [Interval.le_def, ns_offset_adjust]
  have hoffset := c.offset.inRange
  have hdelta := delta.inRange
  unfold Nanos.wrap Nanos.InRange at *
  omega

/-- A correction back does not raise the offset, exactly if the sum lies in the
range. -/
theorem adjust_le_offset_iff (h : delta.ns < 0) :
    (c.adjust delta).1.offset ≤ c.offset ↔
      Nanos.InRange (c.offset.ns + delta.ns) := by
  rw [Interval.le_def, ns_offset_adjust]
  have hoffset := c.offset.inRange
  have hdelta := delta.inRange
  unfold Nanos.wrap Nanos.InRange at *
  omega

/-- What is reported lies on the side of the offset to which the correction
leads, or is the offset. -/
theorem reported_follows (c : Clock) (delta : Interval) :
    (0 ≤ delta.ns → c.offset ≤ (c.adjust delta).2) ∧
      (delta.ns ≤ 0 → (c.adjust delta).2 ≤ c.offset) := by
  rw [Interval.le_def, Interval.le_def, ns_reported_adjust]
  have hoffset := c.offset.inRange
  unfold Nanos.clamp Nanos.InRange at *
  omega

/-- **When the offset that is reported is in force.** Let a clock and its clones
be read, set and adjusted in any order, and then adjusted once more. The
adjustment reports the sum of offset and correction, or the end of the range that
it lies beyond, and so never a step against the correction. What is in force
afterwards is what was reported exactly if the sum lies in the range; otherwise
the offset in force goes against the correction. -/
theorem reported_in_force_iff (c : Clock) (moves : List ClockMove)
    (delta : Interval) :
    let before := c.moved moves
    let sum := before.offset.ns + delta.ns
    let (after, reported) := before.adjust delta
    before.offset.ns = Nanos.wrap (moves.foldl ClockMove.exact c.offset.ns) ∧
    reported.ns = Nanos.clamp sum ∧
    (0 ≤ delta.ns → before.offset ≤ reported) ∧
      (delta.ns ≤ 0 → reported ≤ before.offset) ∧
    (reported = after.offset ↔ Nanos.InRange sum) ∧
    (0 < delta.ns → (before.offset ≤ after.offset ↔ Nanos.InRange sum)) ∧
    (delta.ns < 0 → (after.offset ≤ before.offset ↔ Nanos.InRange sum)) := by
  intro before sum
  obtain ⟨honward, hback⟩ := reported_follows before delta
  exact ⟨ns_offset_moved c moves, rfl, honward, hback, reported_eq_offset_iff,
    offset_le_adjust_iff, adjust_le_offset_iff⟩

/-- A clock whose offset is five nanoseconds short of the last one there is. -/
def nearlyLast : Clock :=
  { offset := ⟨9223372036854775802, by decide⟩, readings := fun _ => .epoch }

/-- Ten nanoseconds onward and ten back lead out of the range and in again, and
then there is room for five. -/
theorem reported_in_force_of_nearlyLast :
    let before :=
      nearlyLast.moved [.adjust ⟨10, by decide⟩, .read, .adjust ⟨-10, by decide⟩]
    before.offset.ns = 9223372036854775802 ∧
    (before.adjust ⟨5, by decide⟩).2 = (before.adjust ⟨5, by decide⟩).1.offset ∧
    before.offset ≤ (before.adjust ⟨5, by decide⟩).1.offset := by
  obtain ⟨hbefore, -, -, -, hreported, honward, -⟩ :=
    reported_in_force_iff nearlyLast
    [.adjust ⟨10, by decide⟩, .read, .adjust ⟨-10, by decide⟩] ⟨5, by decide⟩
  exact ⟨hbefore.trans (by decide), hreported.mpr (by decide),
    (honward (by decide)).mpr (by decide)⟩

/-- At the last offset that there is, a correction by one nanosecond is reported
to leave it there, and leads to the first one. -/
theorem adjusted_past_the_end :
    let last : Clock :=
      { offset := ⟨9223372036854775807, by decide⟩, readings := fun _ => .epoch }
    let (after, reported) := last.adjust ⟨1, by decide⟩
    reported = last.offset ∧ after.offset.ns = -9223372036854775808 ∧
      reported ≠ after.offset ∧ ¬ last.offset ≤ after.offset := by
  decide

end Clock

end Federation
