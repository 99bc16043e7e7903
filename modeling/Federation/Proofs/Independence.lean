/-
Federation/Proofs/Independence.lean

Connections do not disturb each other.

The frames for one action arrive in their order, but those for different actions
may arrive mixed in any way: the rows of frames, one for each action, are
interleaved (`Interleaves`). As there is one board and one row of scheduled
messages for all of them, one action might feel what goes on at another. It does
not.

What an inbox holds for one input are its record on the board and the messages
scheduled at its action. Two inboxes may agree on that and on nothing else
(`Inbox.SameAt`). A frame for another action, taken in or refused, keeps them so
(`sameAt_dispatch_of_ne`), and a frame for this one gets the same answer from
both and leaves them so (`dispatch_of_sameAt`). So an action that hears its
frames among all others is served as if it heard nothing else
(`served_as_alone`), and two interleavings of the same rows come to the same at
every input.
-/
import Mathlib
import Federation.Proofs.Refusal

namespace Federation

/-! ### Interleavings -/

/-- Whether a row takes up the rows of a family, each in its own order, and
nothing else. -/
inductive Interleaves {ι α : Type} [DecidableEq ι] : (ι → List α) → List α → Prop
  /-- There is nothing left to take. -/
  | nil {family : ι → List α} (h : ∀ i, family i = []) : Interleaves family []
  /-- The next one to take is the first that is left of some row. -/
  | cons {family : ι → List α} {row : List α} {i : ι} {a : α} {as : List α}
      (h : family i = a :: as)
      (hrest : Interleaves (Function.update family i as) row) :
      Interleaves family (a :: row)

namespace Interleaves

variable {ι α : Type} [DecidableEq ι] {key : α → Option ι} {family : ι → List α}
  {row : List α}

/-- If each row of the family has a key of its own, an interleaving gives the
rows back. -/
theorem filter_eq (h : Interleaves family row)
    (hfamily : ∀ i, ∀ a ∈ family i, key a = some i) (i : ι) :
    row.filter (key · = some i) = family i := by
  induction h with
  | nil hempty => exact (hempty i).symm
  | @cons family row j a as hj hrest ih =>
    have hkey : key a = some j := hfamily j a (hj ▸ List.mem_cons_self)
    -- what is left of the rows still has their keys
    have hupdated : ∀ k, ∀ b ∈ Function.update family j as k, key b = some k := by
      intro k b hb
      by_cases hk : k = j
      · subst hk
        rw [Function.update_self] at hb
        exact hfamily k b (hj ▸ List.mem_cons_of_mem a hb)
      · rw [Function.update_of_ne hk] at hb
        exact hfamily k b hb
    have hrow := ih hupdated
    by_cases hi : i = j
    · subst hi
      rw [Function.update_self] at hrow
      rw [List.filter_cons_of_pos (by simpa using hkey), hrow, hj]
    · rw [Function.update_of_ne hi] at hrow
      have hne : key a ≠ some i := by
        rw [hkey]
        exact fun h => hi (Option.some.inj h).symm
      rw [List.filter_cons_of_neg (by simpa using hne), hrow]

/-- Conversely, a row all of whose elements have keys interleaves the parts of
the keys. -/
theorem of_filter_eq {row : List α} (hkey : ∀ a ∈ row, (key a).isSome)
    (hfamily : ∀ i, row.filter (key · = some i) = family i) :
    Interleaves family row := by
  obtain rfl : (fun i => row.filter (key · = some i)) = family := funext hfamily
  clear hfamily
  induction row with
  | nil => exact .nil fun i => rfl
  | cons a row ih =>
    obtain ⟨j, hj⟩ := Option.isSome_iff_exists.mp (hkey a List.mem_cons_self)
    have hrest := ih fun b hb => hkey b (List.mem_cons_of_mem a hb)
    have hself :
        (a :: row).filter (key · = some j) = a :: row.filter (key · = some j) :=
      List.filter_cons_of_pos (by simpa using hj)
    have hupdated : Function.update (fun i => (a :: row).filter (key · = some i)) j
        (row.filter (key · = some j)) = fun i => row.filter (key · = some i) := by
      funext i
      by_cases hi : i = j
      · subst hi
        exact Function.update_self i _ _
      · rw [Function.update_of_ne hi]
        apply List.filter_cons_of_neg
        rw [hj, decide_eq_true_eq]
        exact fun h => hi (Option.some.inj h).symm
    rw [← hupdated] at hrest
    exact .cons hself hrest

end Interleaves

/-! ### What an inbox holds for one input -/

/-- Whether two inboxes hold the same for an input. -/
structure Inbox.SameAt (port : PortId) (x y : Inbox) : Prop where
  record : x.board.ports[port]? = y.board.ports[port]?
  scheduled : x.scheduled.filter (·.port = port)
    = y.scheduled.filter (·.port = port)

theorem Inbox.SameAt.status_eq {port : PortId} {x y : Inbox}
    (h : SameAt port x y) (tag : Tag) :
    x.board.status port tag = y.board.status port tag := by
  rw [Board.status, Board.status, h.record]

namespace Board

variable {b b' : Board} {port : PortId} {frame : Frame}

/-- What is heard of another input leaves the record of this one alone. -/
theorem getElem?_hear_of_ne (h : frame.action? ≠ some port) :
    (b.hear frame).ports[port]? = b.ports[port]? := by
  cases frame with
  | peerTaggedMessage m =>
    exact getElem?_mark_of_ne fun heq => h (congrArg some heq.symm)
  | taggedMessage m =>
    exact getElem?_mark_of_ne fun heq => h (congrArg some heq.symm)
  | portAbsent notice =>
    exact getElem?_mark_of_ne fun heq => h (congrArg some heq.symm)
  | _ => rfl

section Same

variable (hsame : b.ports[port]? = b'.ports[port]?)
include hsame

theorem record_congr : b.record port = b'.record port := by
  rw [record, record, Std.ExtTreeMap.getD_eq_getD_getElem?, hsame,
    ← Std.ExtTreeMap.getD_eq_getD_getElem?]

theorem answer_congr (tag : Tag) (message : Bool) :
    b.answer port tag message = b'.answer port tag message := by
  unfold answer markPresent
  rw [record_congr hsame]

/-- What is heard of an input depends on its record only, and so does the answer. -/
theorem hear_congr (h : frame.action? = some port) :
    b.reply frame = b'.reply frame ∧
      (b.hear frame).ports[port]? = (b'.hear frame).ports[port]? := by
  have hmark : ∀ tag message,
      (b.mark port tag message).ports[port]?
        = (b'.mark port tag message).ports[port]? := by
    intro tag message
    rw [mark, mark, getElem?_update_self, getElem?_update_self, record_congr hsame]
  cases frame with
  | untimedMessage m => exact ⟨rfl, hsame⟩
  | peerTaggedMessage m =>
    cases h
    exact ⟨answer_congr hsame _ _, hmark _ _⟩
  | taggedMessage m =>
    cases h
    exact ⟨answer_congr hsame _ _, hmark _ _⟩
  | portAbsent notice =>
    cases h
    exact ⟨answer_congr hsame _ _, hmark _ _⟩
  | _ => cases h

end Same

end Board

namespace Plan

open Inbox

variable {port : PortId} {x y : Inbox} {arrival : Incoming}

/-- Of a row of messages with one more, those for an input are those before, and
that one if it is for the input. -/
theorem filter_append_received {scheduled : List ReceivedMessage}
    {frame : Frame} {now : Instant} :
    (scheduled ++ (frame.received? now).toList).filter (·.port = port)
      = scheduled.filter (·.port = port) ++
        if frame.action? = some port then (frame.received? now).toList else [] := by
  rw [List.filter_append]
  congr 1
  rcases hm : frame.received? now with - | m
  · simp
  · rw [Frame.action?_of_received? hm]
    by_cases hport : m.port = port <;> simp [hport]

/-- A frame for another action changes nothing for this one. -/
theorem sameAt_dispatch_of_ne (plan : Plan) (inbox : Inbox)
    (h : arrival.frame.action? ≠ some port) :
    SameAt port (plan.dispatchIncoming arrival inbox).2 inbox := by
  rcases dispatchIncoming_cases plan arrival inbox with ⟨fault, hrefused⟩ | htaken
  · rw [hrefused]
    exact ⟨rfl, rfl⟩
  · rw [htaken]
    refine ⟨Board.getElem?_hear_of_ne h, ?_⟩
    dsimp only
    rw [filter_append_received, if_neg h, List.append_nil]

/-- A frame for this action comes to the same where the same is held for it. -/
theorem dispatch_of_sameAt (plan : Plan) (hsame : SameAt port x y)
    (h : arrival.frame.action? = some port) :
    (plan.dispatchIncoming arrival x).1 = (plan.dispatchIncoming arrival y).1 ∧
      SameAt port (plan.dispatchIncoming arrival x).2
        (plan.dispatchIncoming arrival y).2 := by
  by_cases hrefuses : ∃ detail, plan.Refuses arrival.frame detail
  · obtain ⟨detail, hrefuses⟩ := hrefuses
    unfold dispatchIncoming
    rw [dispatch_of_refuses _ _ x hrefuses, dispatch_of_refuses _ _ y hrefuses]
    exact ⟨rfl, hsame⟩
  · obtain ⟨hreply, hrecord⟩ := Board.hear_congr hsame.record h
    unfold dispatchIncoming
    rw [dispatch_of_accepts _ _ x (not_exists.mp hrefuses),
      dispatch_of_accepts _ _ y (not_exists.mp hrefuses)]
    refine ⟨congrArg Except.ok hreply, hrecord, ?_⟩
    dsimp only
    rw [filter_append_received, filter_append_received, hsame.scheduled]

/-! ### Rows of frames -/

/-- An action hears its frames among all others as if it heard nothing else. -/
theorem served_as_alone (plan : Plan) (arrivals : List Incoming)
    (hsame : SameAt port x y) :
    plan.resultsFor port arrivals x
        = (inTurn plan.dispatchIncoming
          (arrivals.filter (·.frame.action? = some port)) y).1 ∧
      SameAt port (inTurn plan.dispatchIncoming arrivals x).2
        (inTurn plan.dispatchIncoming
          (arrivals.filter (·.frame.action? = some port)) y).2 := by
  induction arrivals generalizing x y with
  | nil => exact ⟨rfl, hsame⟩
  | cons arrival arrivals ih =>
    by_cases haction : arrival.frame.action? = some port
    · obtain ⟨hresult, hnext⟩ := dispatch_of_sameAt plan hsame haction
      obtain ⟨hresults, hafter⟩ := ih hnext
      rw [List.filter_cons_of_pos (by simpa using haction),
        resultsFor_cons_of_eq haction, inTurn_cons, inTurn_cons, hresult, hresults]
      exact ⟨rfl, hafter⟩
    · -- the inbox moves on, but what it holds for this action stays
      have hstays := sameAt_dispatch_of_ne plan x haction
      obtain ⟨hresults, hafter⟩ := ih (y := y)
        ⟨hstays.record.trans hsame.record, hstays.scheduled.trans hsame.scheduled⟩
      rw [List.filter_cons_of_neg (by simpa using haction),
        resultsFor_cons_of_ne haction, inTurn_cons]
      exact ⟨hresults, hafter⟩

/-- **Connections are independent.** Given a row of frames for each action, of
any kind and wherever they come from, let two interleavings of these rows arrive
at one and the same inbox. Then at every action the frames get the same answers,
in order, and these are the answers that the row of the action would get alone;
and in the end the board says the same of every input at every tag, and the same
messages are scheduled at every action, in the same order. -/
theorem interleavings_agree (plan : Plan) (inbox : Inbox)
    (family : PortId → List Incoming) (row row' : List Incoming)
    (hfamily : ∀ port, ∀ arrival ∈ family port, arrival.frame.action? = some port)
    (h : Interleaves family row) (h' : Interleaves family row') (port : PortId) :
    let after := (inTurn plan.dispatchIncoming row inbox).2
    let after' := (inTurn plan.dispatchIncoming row' inbox).2
    plan.resultsFor port row inbox = plan.resultsFor port row' inbox ∧
    plan.resultsFor port row inbox
      = (inTurn plan.dispatchIncoming (family port) inbox).1 ∧
    (∀ tag, after.board.status port tag = after'.board.status port tag) ∧
    after.scheduled.filter (·.port = port)
      = after'.scheduled.filter (·.port = port) := by
  have hsame : SameAt port inbox inbox := ⟨rfl, rfl⟩
  obtain ⟨hresults, hrow⟩ := served_as_alone plan row hsame
  obtain ⟨hresults', hrow'⟩ := served_as_alone plan row' hsame
  rw [h.filter_eq hfamily port] at hresults hrow
  rw [h'.filter_eq hfamily port] at hresults' hrow'
  refine ⟨hresults.trans hresults'.symm, hresults, ?_, ?_⟩
  · intro tag
    exact (hrow.status_eq tag).trans (hrow'.status_eq tag).symm
  · exact hrow.scheduled.trans hrow'.scheduled.symm

/-- The traffic of the triangle that is for an action, as it came. -/
def triangleRow : List Incoming := triangleTraffic.filter (·.frame.action?.isSome)

/-- The same with the frames for one action ahead of all others. -/
def triangleRowAhead : List Incoming :=
  triangleRow.filter (·.frame.action? = some ⟨1⟩) ++
    triangleRow.filter (·.frame.action? ≠ some ⟨1⟩)

theorem interleavings_agree_on_triangle :
    ∃ receiver, build ⟨2⟩ triangle .decentralized (fun _ => .zero) = .ok receiver ∧
      receiver.resultsFor ⟨1⟩ triangleRow {}
        = receiver.resultsFor ⟨1⟩ triangleRowAhead {} ∧
      receiver.resultsFor ⟨1⟩ triangleRow {}
        = [.ok .absentRecorded, .ok .tardy] := by
  have hrow : ∀ arrival ∈ triangleRow, arrival.frame.action?.isSome :=
    fun arrival h => (List.mem_filter.mp h).2
  have hahead : ∀ arrival ∈ triangleRowAhead, arrival.frame.action?.isSome := by
    intro arrival h
    rcases List.mem_append.mp h with h | h <;>
      exact hrow arrival (List.mem_filter.mp h).1
  have hsame : ∀ port, triangleRowAhead.filter (·.frame.action? = some port)
      = triangleRow.filter (·.frame.action? = some port) := by
    intro port
    rw [triangleRowAhead, List.filter_append, List.filter_filter,
      List.filter_filter]
    by_cases hport : port = ⟨1⟩
    · subst hport
      simp
    · -- the part that goes ahead has nothing for the port, and the other has
      -- all of it
      have hnone : ∀ action : Option PortId, (decide (action = some port) &&
          decide (action = some ⟨1⟩)) = false := by
        rintro (- | action) <;> simp +contextual [hport]
      have hall : ∀ action : Option PortId, (decide (action = some port) &&
          decide (action ≠ some ⟨1⟩)) = decide (action = some port) := by
        rintro (- | action) <;> simp +contextual [hport]
      simp only [hnone, hall, List.filter_false, List.nil_append]
  have hagree :=
    fun plan => interleavings_agree plan {} _ triangleRow triangleRowAhead
    (fun port arrival h => of_decide_eq_true (List.mem_filter.mp h).2)
    (.of_filter_eq hrow fun port => rfl) (.of_filter_eq hahead hsame) ⟨1⟩
  refine ⟨_, rfl, (hagree _).1, ?_⟩
  exact (hagree _).2.1.trans (by decide)

end Plan

end Federation
