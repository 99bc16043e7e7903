/-
Federation/Proofs/Violation.lean

What becomes of the messages that come too late.

A wait that gives up at its deadline takes its tag for absent, and a message
that comes for the tag after all is tardy: it shows that the deadline was too
early. Several messages may be meant for one tag, as a positive delay leads all
microsteps of an instant to the same one, and all of them are then too late. The
board tells it of the first of them only. It looks at what it has recorded, and
there the first has made the tag present, so the next one is accepted as if
nothing had happened (`late_message_hides_the_next`).

The main result says exactly which of the late messages are tardy
(`tardy_since_timeout_iff`): those that find no earlier one on record. So it is
the first, and again the first after each time that the record was forgotten,
whatever else happens meanwhile.

Design: the board is what its history says (`Board.tells_run`), so all is about
the row of events. At the moment of the deadline no message for the tag is kept,
and what is kept later has come since (`Board.kept_append_iff`).
-/
import Mathlib
import Federation.Proofs.Waiting

namespace Federation

namespace Board

variable {b : Board} {events later : List BoardEvent} {port : PortId} {tag : Tag}
variable {w : Wait} {now : Instant}

/-- A look that finds that the deadline has come leaves an absence behind. -/
theorem TimesOut.status_check (h : b.TimesOut w now) :
    (b.check w now).1.status w.port w.tag = .absent := by
  have hpresent : (b.mark w.port w.tag false).status w.port w.tag ≠ .present := by
    rw [Ne, present_mark_iff, h.unknown]
    simp
  have hknown : (b.mark w.port w.tag false).status w.port w.tag ≠ .unknown := by
    rw [Ne, unknown_mark_iff]
    exact fun h => h.2 (Tag.le_refl w.tag)
  rw [h.check_eq]
  cases hstatus : (b.mark w.port w.tag false).status w.port w.tag with
  | unknown => exact absurd hstatus hknown
  | present => exact absurd hstatus hpresent
  | absent => rfl

/-- What is kept has come since, or it was kept before and not forgotten since. -/
theorem kept_append_iff :
    Kept (events ++ later) port tag ↔ Kept later port tag ∨
      Kept events port tag ∧ ∀ t, .change (.prune t) ∈ later → ¬ tag < t := by
  induction later using List.reverseRecOn with
  | nil =>
    rw [List.append_nil, or_iff_right not_kept_nil]
    simp
  | append_singleton later e ih =>
    rw [← List.append_assoc, kept_concat_iff, kept_concat_iff, ih]
    simp only [List.mem_append, List.mem_singleton, or_imp, forall_and,
      eq_comm (b := e)]
    tauto

end Board

namespace WaitingRoom

variable {r : WaitingRoom} {n : Nat} {now : Instant} {w : Wait}
variable {port : PortId} {tag : Tag} {events : List Event}

/-! ### Late messages -/

/-- Whether a message for the tag came that was not forgotten since. -/
def Kept (events : List Event) (port : PortId) (tag : Tag) : Prop :=
  ∃ earlier later, events = earlier ++ .change (.message port tag) :: later ∧
    ∀ t, .change (.prune t) ∈ later → ¬ tag < t

/-- A change that the board sees is one of the steps. -/
theorem split_of_boardEvents {c : BoardChange} {before after : List BoardEvent}
    (h : r.boardEvents events = before ++ .change c :: after) :
    ∃ earlier later, events = earlier ++ .change c :: later ∧
      ((r.run earlier).step (.change c)).boardEvents later = after := by
  induction events generalizing r before with
  | nil => simp [boardEvents] at h
  | cons e es ih =>
    rw [boardEvents] at h
    rcases he : r.boardEvent? e with - | x
    · rw [he, Option.toList_none, List.nil_append] at h
      obtain ⟨earlier, later, rfl, rfl⟩ := ih h
      exact ⟨e :: earlier, later, rfl, rfl⟩
    · rw [he, Option.toList_some, List.singleton_append] at h
      rcases before with - | ⟨y, before⟩
      · obtain ⟨rfl, rfl⟩ := List.cons.inj h
        obtain rfl := boardEvent?_eq_change_iff.mp he
        exact ⟨[], es, rfl, rfl⟩
      · obtain ⟨-, htail⟩ := List.cons.inj h
        obtain ⟨earlier, later, rfl, rfl⟩ := ih htail
        exact ⟨e :: earlier, later, rfl, rfl⟩

theorem kept_boardEvents_iff :
    Board.Kept (r.boardEvents events) port tag ↔ Kept events port tag := by
  constructor
  · rintro ⟨before, after, hsplit, hkeep⟩
    obtain ⟨earlier, later, rfl, rfl⟩ := split_of_boardEvents hsplit
    refine ⟨earlier, later, rfl, ?_⟩
    intro t ht
    exact hkeep t (change_mem_boardEvents.mpr ht)
  · rintro ⟨earlier, later, rfl, hkeep⟩
    refine ⟨r.boardEvents earlier,
      ((r.run earlier).step (.change (.message port tag))).boardEvents later,
        ?_, ?_⟩
    · rw [boardEvents_append]
      rfl
    · intro t ht
      exact hkeep t (change_mem_boardEvents.mp ht)

/-- Where nothing is forgotten, what is kept is what came. -/
theorem kept_iff_mem (h : ∀ t, .change (.prune t) ∈ events → ¬ tag < t) :
    Kept events port tag ↔ .change (.message port tag) ∈ events := by
  have hboard : ∀ t, .change (.prune t) ∈ boardEvents {} events → ¬ tag < t := by
    intro t ht
    exact h t (change_mem_boardEvents.mp ht)
  rw [← kept_boardEvents_iff, Board.kept_iff_mem hboard, change_mem_boardEvents]

/-- Whether the wait with number `n`, which is going on, gives up when it looks
next, for no other reason than that its deadline has come. -/
structure GivesUp (r : WaitingRoom) (n : Nat) (now : Instant) (w : Wait) :
    Prop where
  pending : r.entries[n]? = some { wait := w }
  timeout : r.board.TimesOut w now

section GivesUp

variable (h : r.GivesUp n now w)
include h

/-- A wait that gives up ends with an absence. -/
theorem GivesUp.outcome : (r.step (.look n now)).outcome? n = some .absent := by
  have hlt := (List.getElem?_eq_some_iff.mp h.pending).1
  obtain ⟨hrunning, hunknown, hdue⟩ := h.timeout
  simp [outcome?, step, h.pending, look, Board.check, hrunning, hunknown, hdue,
    List.getElem?_set_self hlt]

/-- A wait that gives up leaves an absence behind. -/
theorem GivesUp.status :
    (r.step (.look n now)).board.status w.port w.tag = .absent := by
  have hboard : (r.step (.look n now)).board = (r.board.check w now).1 := by
    simp only [step, h.pending, look]
    rcases r.board.check w now with ⟨board, status | remaining⟩ <;> rfl
  rw [hboard]
  exact h.timeout.status_check

end GivesUp

section

variable {earlier between : List Event} {deadline : Instant}

/-- When a wait gives up, its tag has been reached, and no message for it is
kept. -/
theorem GivesUp.not_kept
    (h : (run {} earlier).GivesUp n now ⟨port, tag, deadline⟩) :
    ¬ Board.Kept (boardEvents {} (earlier ++ [.look n now])) port tag ∧
      Board.Reached (boardEvents {} (earlier ++ [.look n now])) port tag := by
  have habsent := h.status
  rw [← run_concat, board_run] at habsent
  exact Board.absent_run_iff.mp habsent

/-- A message after a wait has given up is tardy if no other is kept that came
since. -/
theorem GivesUp.tardy_iff
    (h : (run {} earlier).GivesUp n now ⟨port, tag, deadline⟩) :
    ((run {} (earlier ++ .look n now :: between)).board.markPresent port tag).2
        = .tardy ↔ ¬ Kept between port tag := by
  obtain ⟨hnone, hbefore⟩ := h.not_kept
  have hsplit : boardEvents {} (earlier ++ .look n now :: between)
      = boardEvents {} (earlier ++ [.look n now]) ++
        (run {} (earlier ++ [.look n now])).boardEvents between := by
    rw [← boardEvents_append, List.append_assoc, List.singleton_append]
  have hkept :
      Board.Kept (boardEvents {} (earlier ++ .look n now :: between)) port tag ↔
      Kept between port tag := by
    rw [hsplit, Board.kept_append_iff, or_iff_left fun h => hnone h.1,
      kept_boardEvents_iff]
  have hreached : Board.Reached
      (boardEvents {} (earlier ++ .look n now :: between)) port tag := by
    rw [hsplit]
    exact hbefore.append _
  -- what was reached is known, so the least tag of all is no case of its own
  have hknown : (run {} (earlier ++ .look n now :: between)).board.status port tag
      ≠ .unknown := by
    intro hunknown
    exact ((tells_boardEvents _).unknown port tag).mp hunknown hreached
  rw [Board.markPresent_tardy_iff, or_iff_left fun h => hknown h.1, board_run]
  show (Board.empty.run _).status port tag = .absent ↔ _
  rw [Board.absent_run_iff, hkept, and_iff_left hreached]

end

/-- **Late messages, one after another.** Take any interleaving that begins with
nothing, and a wait in it that gives up because its deadline has come. The wait
ends with an absence. A message for its tag that comes later in the interleaving
is tardy exactly if no message for the tag is on record that came since the wait
gave up, that is, if none came since or all that came were forgotten. So the
first is tardy, and the next is not, unless the first was forgotten before it.
-/
theorem tardy_since_timeout_iff {earlier : List Event} {n : Nat} {now : Instant}
    {port : PortId} {tag : Tag} {deadline : Instant}
    (h : (run {} earlier).GivesUp n now ⟨port, tag, deadline⟩) :
    (run {} (earlier ++ [.look n now])).outcome? n = some .absent ∧
    ∀ between,
      (((run {} (earlier ++ .look n now :: between)).board.markPresent port tag).2
        = .tardy ↔ ¬ Kept between port tag) ∧
      (.change (.message port tag) ∉ between →
        ((run {} (earlier ++ .look n now :: between)).board.markPresent port tag).2
          = .tardy) ∧
      (.change (.message port tag) ∈ between →
        (∀ t, .change (.prune t) ∈ between → ¬ tag < t) →
        ((run {} (earlier ++ .look n now :: between)).board.markPresent port tag).2
          = .accepted) := by
  refine ⟨?_, fun between => ⟨h.tardy_iff, ?_, ?_⟩⟩
  · rw [run_concat]
    exact h.outcome
  · intro hnone
    apply h.tardy_iff.mpr
    rintro ⟨before, after, rfl, -⟩
    exact hnone (by simp)
  · intro hmem hkeep
    have hkept : Kept between port tag := (kept_iff_mem hkeep).mpr hmem
    have hmark := mt h.tardy_iff.mp (not_not.mpr hkept)
    generalize ((run {} (earlier ++ .look n now :: between)).board.markPresent
      port tag).2 = mark at hmark
    cases mark with
    | accepted => rfl
    | tardy => exact absurd rfl hmark

/-- A wait that gives up at once, and two messages for its tag after that. -/
def twoLate : List Event :=
  [.arrive ⟨⟨0⟩, ⟨.epoch, 3⟩, .epoch⟩, .look 0 .epoch,
    .change (.message ⟨0⟩ ⟨.epoch, 3⟩),
    .change (.message ⟨0⟩ ⟨.epoch, 3⟩)]

/-- The second message is tardy if the first was forgotten before it, and only
then. -/
theorem tardy_since_timeout_of_twoLate :
    (run {} (twoLate.take 1)).GivesUp 0 .epoch ⟨⟨0⟩, ⟨.epoch, 3⟩, .epoch⟩ ∧
    ((run {} (twoLate.take 2)).board.markPresent ⟨0⟩ ⟨.epoch, 3⟩).2 = .tardy ∧
    ((run {} (twoLate.take 3)).board.markPresent ⟨0⟩ ⟨.epoch, 3⟩).2 = .accepted ∧
    ((run {} (twoLate.take 3 ++ [.change (.prune ⟨.epoch, 4⟩)])).board.markPresent
      ⟨0⟩ ⟨.epoch, 3⟩).2 = .tardy := by
  have hgives :
      (run {} (twoLate.take 1)).GivesUp 0 .epoch ⟨⟨0⟩, ⟨.epoch, 3⟩, .epoch⟩ :=
    ⟨rfl, rfl, by decide, by decide⟩
  obtain ⟨-, hmark⟩ := tardy_since_timeout_iff hgives
  refine ⟨hgives, (hmark []).2.1 (by simp), ?_, ?_⟩
  · exact (hmark [.change (.message ⟨0⟩ ⟨.epoch, 3⟩)]).2.2 (by simp) (by simp)
  · apply (hmark
      [.change (.message ⟨0⟩ ⟨.epoch, 3⟩), .change (.prune ⟨.epoch, 4⟩)]).1.mpr
    rintro ⟨before, after, hsplit, hkeep⟩
    -- the message is the first of the two steps, so the pruning stands behind it
    rcases before with - | ⟨e, before⟩
    · obtain ⟨-, rfl⟩ := List.cons.inj hsplit
      exact hkeep ⟨.epoch, 4⟩ (by simp) (by decide)
    · obtain ⟨-, htail⟩ := List.cons.inj hsplit
      rcases before with - | ⟨e', before⟩ <;> simp at htail

/-- A late message makes its tag present, and so hides that the next one is late
as well. -/
theorem late_message_hides_the_next :
    (run {} (twoLate.take 2)).outcome? 0 = some .absent ∧
    (run {} (twoLate.take 2)).board.shuttingDown = false ∧
    ((run {} (twoLate.take 2)).board.markPresent ⟨0⟩ ⟨.epoch, 3⟩).2 = .tardy ∧
    ((run {} (twoLate.take 3)).board.markPresent ⟨0⟩ ⟨.epoch, 3⟩).2
      = .accepted := by
  decide

end WaitingRoom

end Federation
