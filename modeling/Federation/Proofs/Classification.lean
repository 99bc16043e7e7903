/-
Federation/Proofs/Classification.lean

What the board says when asked, and what it says when a message comes.

Of a tag the board can be asked for the status, and a message for the tag is
classified: it is tardy if its tag was taken for absent before. One would expect
that the two agree, but they look at different things. The status of an input of
which nothing was heard is read off the missing record; the message first makes
the blank record, and the blank record knows the least tag of all.

The main result says that this is the only difference (`classified_as_queried`).
At each other tag the two agree, and at the least tag they agree as soon as the
input was marked once, by a message, a notice or a deadline (`Heard`). Before
that a message for the least tag is tardy, though nothing has taken it for
absent (`least_tag_tardy_unheard`).

Design: to have heard of an input is to have reached the least tag
(`heard_iff_reached`), so what the history of the board says of one tag is
enough.
-/
import Mathlib
import Federation.Proofs.History

namespace Federation.Board

variable {b : Board} {events : List BoardEvent} {port : PortId} {tag : Tag}

/-! ### An input that was heard of -/

/-- Whether the input was marked at all, by a message, a notice, or an absence
that a deadline decided. -/
def Heard (events : List BoardEvent) (port : PortId) : Prop :=
  ∃ earlier e later tag message, events = earlier ++ e :: later ∧
    (empty.run earlier).Marks e port tag message

/-- Every mark is at the least tag or later. -/
theorem heard_iff_reached : Heard events port ↔ Reached events port .never := by
  constructor
  · rintro ⟨earlier, e, later, tag, message, hsplit, hmark⟩
    exact ⟨earlier, e, later, tag, message, hsplit, hmark, Tag.never_le tag⟩
  · rintro ⟨earlier, e, later, tag, message, hsplit, hmark, -⟩
    exact ⟨earlier, e, later, tag, message, hsplit, hmark⟩

theorem Heard.append (h : Heard events port) (later : List BoardEvent) :
    Heard (events ++ later) port :=
  heard_iff_reached.mpr ((heard_iff_reached.mp h).append later)

/-- An input was heard of exactly if the board knows its least tag. -/
theorem unknown_never_iff :
    (empty.run events).status port .never = .unknown ↔ ¬ Heard events port := by
  rw [heard_iff_reached]
  exact (tells_run events).unknown port .never

/-! ### The two answers -/

theorem markPresent_accepted_iff :
    (b.markPresent port tag).2 = .accepted ↔
      (b.markPresent port tag).2 ≠ .tardy := by
  cases (b.markPresent port tag).2 <;> simp

/-- A message is tardy if its tag is absent, and else only if it is the first
that is heard of the input and has the least tag. -/
theorem tardy_run_iff :
    ((empty.run events).markPresent port tag).2 = .tardy ↔
      (empty.run events).status port tag = .absent ∨
        tag = .never ∧ ¬ Heard events port := by
  rw [markPresent_tardy_iff]
  refine or_congr_right ?_
  constructor
  · rintro ⟨hunknown, rfl⟩
    exact ⟨rfl, unknown_never_iff.mp hunknown⟩
  · rintro ⟨rfl, hunheard⟩
    exact ⟨unknown_never_iff.mpr hunheard, rfl⟩

/-- **Asked, and told by a message.** After any row of events, a message for a
tag that is absent is tardy, and a message for a tag that is present is
accepted. So is a message for a tag that is unknown, with one exception: for the
least tag of all it is tardy as long as nothing was heard of the input. Once the
input was marked, a message is tardy exactly if its tag is absent, whatever
happens afterwards. -/
theorem classified_as_queried (events : List BoardEvent) (port : PortId)
    (tag : Tag) :
    let b := empty.run events
    (b.status port tag = .absent → (b.markPresent port tag).2 = .tardy) ∧
    (b.status port tag = .present → (b.markPresent port tag).2 = .accepted) ∧
    (b.status port tag = .unknown → tag ≠ .never →
      (b.markPresent port tag).2 = .accepted) ∧
    (b.status port tag = .unknown ∧ (b.markPresent port tag).2 = .tardy ↔
      tag = .never ∧ ¬ Heard events port) ∧
    (Heard events port → ∀ later,
      ((empty.run (events ++ later)).markPresent port tag).2 = .tardy ↔
        (empty.run (events ++ later)).status port tag = .absent) := by
  intro b
  refine
    ⟨fun habsent => markPresent_tardy_iff.mpr (.inl habsent), fun hpresent => ?_,
    fun hunknown hnever => ?_, ?_, fun hheard later => ?_⟩
  · rw [markPresent_accepted_iff, Ne, markPresent_tardy_iff, hpresent]
    simp
  · -- an unknown tag can only be tardy as the least one
    rw [markPresent_accepted_iff, Ne, markPresent_tardy_iff, hunknown]
    simp [hnever]
  · rw [tardy_run_iff]
    constructor
    · rintro ⟨hunknown, habsent | hleast⟩
      · cases hunknown.symm.trans habsent
      · exact hleast
    · rintro ⟨rfl, hunheard⟩
      exact ⟨unknown_never_iff.mpr hunheard, .inr ⟨rfl, hunheard⟩⟩
  · -- what was heard of once was heard of for good, so the exception is gone
    rw [tardy_run_iff]
    exact or_iff_left fun h => h.2 (hheard.append later)

/-- The first input was marked by a message and a deadline, the second by a
message and a notice, and of the third nothing was heard. -/
theorem classified_as_queried_of_mixedEvents :
    ((empty.run mixedEvents).markPresent ⟨0⟩ ⟨.epoch, 5⟩).2 = .tardy ∧
    ((empty.run mixedEvents).markPresent ⟨1⟩ ⟨.epoch, 6⟩).2 = .accepted ∧
    ((empty.run mixedEvents).markPresent ⟨1⟩ ⟨.epoch, 7⟩).2 = .accepted ∧
    ¬ Heard mixedEvents ⟨2⟩ :=
  ⟨(classified_as_queried mixedEvents ⟨0⟩ ⟨.epoch, 5⟩).1 (by decide),
    (classified_as_queried mixedEvents ⟨1⟩ ⟨.epoch, 6⟩).2.1 (by decide),
    (classified_as_queried mixedEvents ⟨1⟩ ⟨.epoch, 7⟩).2.2.1 (by decide)
    (by decide),
    ((classified_as_queried mixedEvents ⟨2⟩ .never).2.2.2.1.mp (by decide)).2⟩

/-- The first message of all is tardy if it has the least tag, though its tag is
not known to be absent.
-/
theorem least_tag_tardy_unheard :
    (empty.run []).status ⟨0⟩ .never = .unknown ∧
      ((empty.run []).markPresent ⟨0⟩ .never).2 = .tardy := by
  decide

end Federation.Board
