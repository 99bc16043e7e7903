/-
Federation/Time/Tag.lean

Tags and delays.

A tag is a point in the order of events: an instant, and a microstep within it.
Tags are compared by time first and by microstep second.

A connection may declare a delay, its `after` clause. `Tag.delayed` is the tag
at which an event that leaves at a given tag arrives: without a clause the same
tag, with a clause of nought the next microstep of the same time, with a
positive clause the first microstep of the later time. So an explicit delay
always leads to a strictly later tag, however small it is.
-/
import Federation.Time.Instant

namespace Federation

/-- A point in the order of events. -/
@[ext] structure Tag where
  time : Instant
  microstep : UInt32
deriving DecidableEq

/-- The delay that a connection declares, or `none` where it has no `after`
clause. -/
abbrev Delay := Option Interval

/-- The length of the delay; a missing clause counts as nought. -/
def Delay.interval (delay : Delay) : Interval := delay.getD .zero

namespace Tag

/-- The tag before all other tags. -/
def never : Tag := ⟨.never, 0⟩

/-- The tag after all other tags. -/
def forever : Tag := ⟨.forever, 4294967295⟩

/-- The first tag of an instant. -/
def firstAt (time : Instant) : Tag := ⟨time, 0⟩

instance : Inhabited Tag := ⟨.firstAt .epoch⟩

instance : LE Tag :=
  ⟨fun a b => a.time < b.time ∨ a.time = b.time ∧ a.microstep ≤ b.microstep⟩
instance : LT Tag :=
  ⟨fun a b => a.time < b.time ∨ a.time = b.time ∧ a.microstep < b.microstep⟩
instance : DecidableLE Tag := fun a b =>
  inferInstanceAs
    (Decidable (a.time < b.time ∨ a.time = b.time ∧ a.microstep ≤ b.microstep))
instance : DecidableLT Tag := fun a b =>
  inferInstanceAs
    (Decidable (a.time < b.time ∨ a.time = b.time ∧ a.microstep < b.microstep))
instance : Ord Tag :=
  ⟨fun a b => (compare a.time b.time).then (compare a.microstep b.microstep)⟩

theorem le_def {a b : Tag} :
    a ≤ b ↔ a.time.ns < b.time.ns ∨ a.time = b.time ∧ a.microstep ≤ b.microstep :=
      .rfl

theorem lt_def {a b : Tag} :
    a < b ↔ a.time.ns < b.time.ns ∨ a.time = b.time ∧ a.microstep < b.microstep :=
      .rfl

/-- The later of two tags. -/
def later (a b : Tag) : Tag := if a ≤ b then b else a

/-- The tag at which what leaves at `tag` arrives. -/
def delayed (tag : Tag) : Delay → Except TimeError Tag
  | none => .ok tag
  | some delay =>
    if delay.ns < 0 then .error (.negative delay)
    else if delay.ns = 0 then
      if tag.microstep = 4294967295 then .error (.overflow tag.time .zero)
      else .ok ⟨tag.time, tag.microstep + 1⟩
    else (tag.time.checkedAdd delay).map .firstAt

/-- A tag prints as a pair. -/
def render (tag : Tag) : String :=
  "(" ++ tag.time.render ++ ", " ++ toString tag.microstep ++ ")"

end Tag

end Federation
