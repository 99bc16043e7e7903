/-
Federation/Proofs/Refusal.lean

What a federate refuses, and what it takes in.

Whether a frame is refused is read off the plan and the frame, whatever has
arrived before (`Plan.Refuses`), and so is the fault. A refused frame leaves the
inbox as it was (`dispatch_of_refuses`). Any other is taken in whole
(`dispatch_of_accepts`): what it says of its input goes to the board
(`Board.hear`), and if it is a message, it is scheduled as it came
(`Frame.received?`), behind all that were scheduled before.

So of a row of frames the scheduled messages are those of the frames that were
taken in, in order and each once; without the frames that were refused the row
would have come to the same; and where a message was taken in for a tag, the tag
is present from then on. All three go by induction over the row, with one lemma
for each of the two things that a frame can come to.
-/
import Mathlib
import Federation.Proofs.Tardiness

namespace Federation

/-! ### What a frame brings -/

namespace Frame

/-- The message of a frame, as it is received when the clock shows `now`. -/
def received? (now : Instant) : Frame → Option ReceivedMessage
  | untimedMessage m => some ⟨m.port, m.payload, now, none⟩
  | peerTaggedMessage m => some ⟨m.port, m.payload, now, some m.tag⟩
  | taggedMessage m => some ⟨m.port, m.payload, now, some m.tag⟩
  | _ => none

/-- A message is scheduled at the action that its frame is addressed to. -/
theorem action?_of_received? {frame : Frame} {now : Instant} {m : ReceivedMessage}
    (h : frame.received? now = some m) : frame.action? = some m.port := by
  cases frame with
  | untimedMessage _ => cases h; rfl
  | peerTaggedMessage _ => cases h; rfl
  | taggedMessage _ => cases h; rfl
  | _ => cases h

/-- A mark is addressed to the federate whose input it is about. -/
theorem Marks.addressee?_eq {port : PortId} {receiver : FederateId} {tag : Tag}
    {message : Bool} {frame : Frame} (h : frame.Marks port receiver tag message) :
    frame.addressee? = some receiver := by
  cases h <;> rfl

end Frame

namespace Board

variable {b : Board} {frame : Frame} {port : PortId} {tag : Tag}

/-- The board after a frame that was taken in. -/
def hear (b : Board) : Frame → Board
  | .peerTaggedMessage m => b.mark m.port m.tag true
  | .taggedMessage m => b.mark m.port m.tag true
  | .portAbsent notice => b.mark notice.port notice.tag false
  | _ => b

/-- What becomes of a frame that is taken in. -/
def reply (b : Board) : Frame → Dispatched
  | .peerTaggedMessage m => b.answer m.port m.tag true
  | .taggedMessage m => b.answer m.port m.tag true
  | .portAbsent notice => b.answer notice.port notice.tag false
  | _ => .delivered

/-- A mark is heard as such. -/
theorem hear_of_marks {receiver : FederateId} {message : Bool}
    (h : frame.Marks port receiver tag message) :
    b.hear frame = b.mark port tag message := by
  cases h <;> rfl

end Board

namespace Plan

variable {plan : Plan} {frame : Frame} {detail : String} {inbox : Inbox}
  {source : Destination}
variable {now : Instant} {port : PortId} {federate : FederateId} {tag : Tag}

/-! ### Frame by frame -/

/-- What a federate refuses, and in which words. -/
inductive Refuses (plan : Plan) : Frame → String → Prop
  /-- A frame that is not for an action. -/
  | stray {frame : Frame} (h : frame.action? = none) :
      Refuses plan frame ("unexpected " ++ frame.kindName ++ " frame")
  /-- A frame for someone else. -/
  | misaddressed {frame : Frame} {federate : FederateId}
      (h : frame.addressee? = some federate) (hother : federate ≠ plan.federate) :
      Refuses plan frame
        ("message addressed to " ++ federate.render ++ ", this is " ++
          plan.federate.render)
  /-- A frame for an action that there is not. -/
  | unknown {frame : Frame} {port : PortId}
      (h : frame.addressee? = some plan.federate)
      (haction : frame.action? = some port) (hinlet : plan.inlet? port = none) :
      Refuses plan frame ("no network message action for " ++ port.render)
  /-- A message with a tag where tags mean nothing. -/
  | tagged {frame : Frame} {port : PortId} {tag : Tag} {i : Inlet}
      (h : frame.Marks port plan.federate tag true)
      (hinlet : plan.inlet? port = some i)
      (hphysical : i.connection.physical = true) :
      Refuses plan frame
        ("tagged message on physical connection " ++ i.connection.render)
  /-- A message without a tag where one is needed. -/
  | untimed {m : UntimedMessage} {i : Inlet} (h : m.federate = plan.federate)
      (hinlet : plan.inlet? m.port = some i)
      (hlogical : i.connection.physical = false) :
      Refuses plan (.untimedMessage m)
        ("untimed message on logical connection " ++ i.connection.render)

/-- A data frame whose address does not check out is refused with the fault of
the check. -/
theorem dispatch_of_addressee_error {e : Fault}
    (haddressee : frame.addressee? = some federate)
    (haction : frame.action? = some port)
    (h : plan.addressee source federate port = .error e) :
    plan.dispatch source now frame inbox = (.error e, inbox) := by
  cases frame with
  | untimedMessage m =>
    cases haddressee
    cases haction
    rw [dispatch, dispatchUntimed, h]
  | peerTaggedMessage m =>
    cases haddressee
    cases haction
    rw [dispatch, dispatchTagged, h]
  | taggedMessage m =>
    cases haddressee
    cases haction
    rw [dispatch, dispatchTagged, h]
  | portAbsent notice =>
    cases haddressee
    cases haction
    rw [dispatch, dispatchAbsent, h]
  | _ => cases haction

/-- Every data frame is for someone. -/
theorem exists_action_of_addressee (h : frame.addressee? = some federate) :
    ∃ port, frame.action? = some port := by
  cases frame with
  | untimedMessage m => exact ⟨_, rfl⟩
  | peerTaggedMessage m => exact ⟨_, rfl⟩
  | taggedMessage m => exact ⟨_, rfl⟩
  | portAbsent notice => exact ⟨_, rfl⟩
  | _ => cases h

/-- What is refused leaves the inbox as it was. -/
theorem dispatch_of_refuses (source : Destination) (now : Instant) (inbox : Inbox)
    (h : plan.Refuses frame detail) :
    plan.dispatch source now frame inbox
      = (.error (.protocol source.render detail), inbox) := by
  -- in the order of the checks: what frame it is, whom it is for, and what its
  -- connection carries
  cases h with
  | stray hstray =>
    cases frame with
    | untimedMessage m => cases hstray
    | peerTaggedMessage m => cases hstray
    | taggedMessage m => cases hstray
    | portAbsent notice => cases hstray
    | _ => rfl
  | misaddressed haddressee hother =>
    obtain ⟨port, haction⟩ := exists_action_of_addressee haddressee
    apply dispatch_of_addressee_error haddressee haction
    rw [addressee, if_neg hother]
  | unknown haddressee haction hinlet =>
    apply dispatch_of_addressee_error haddressee haction
    rw [addressee, if_pos rfl, hinlet]
  | tagged hmarks hinlet hphysical =>
    have haddressee := addressee_eq source hinlet
    cases hmarks with
    | peerTaggedMessage payload =>
      rw [dispatch, dispatchTagged, haddressee]; exact if_pos hphysical
    | taggedMessage payload =>
      rw [dispatch, dispatchTagged, haddressee]; exact if_pos hphysical
  | @untimed m i hfederate hinlet hlogical =>
    have haddressee := addressee_eq source hinlet
    rw [dispatch, dispatchUntimed, hfederate, haddressee]
    simp only [hlogical, Bool.false_eq_true, if_false]

/-- What was taken in once is not refused. -/
theorem not_refuses_of_isOk
    (h : (plan.dispatch source now frame inbox).1.isOk = true) (detail : String) :
    ¬ plan.Refuses frame detail := by
  intro hrefuses
  rw [dispatch_of_refuses _ _ _ hrefuses] at h
  cases h

/-- What is not refused for its address is for an action of the federate. -/
theorem inlet_of_accepts (h : ∀ detail, ¬ plan.Refuses frame detail)
    (haddressee : frame.addressee? = some federate)
    (haction : frame.action? = some port) :
    federate = plan.federate ∧ ∃ i, plan.inlet? port = some i := by
  have hfederate : federate = plan.federate := by
    by_contra hother
    exact h _ (.misaddressed haddressee hother)
  subst hfederate
  refine ⟨rfl, Option.ne_none_iff_exists'.mp fun hinlet => ?_⟩
  exact h _ (.unknown haddressee haction hinlet)

/-- A tagged message that is not refused is recorded and scheduled, by whichever
way it came. -/
theorem dispatchTagged_of_accepts {f : TaggedMessage} (source : Destination)
    (now : Instant) (inbox : Inbox)
    (hmarks : frame.Marks f.port f.federate f.tag true)
    (h : ∀ detail, ¬ plan.Refuses frame detail) :
    plan.dispatchTagged source now f inbox
      = (.ok (inbox.board.answer f.port f.tag true),
      ⟨inbox.board.mark f.port f.tag true,
        inbox.scheduled ++ [⟨f.port, f.payload, now, some f.tag⟩]⟩) := by
  obtain ⟨hfederate, i, hinlet⟩ :=
    inlet_of_accepts h hmarks.addressee?_eq hmarks.action?_eq
  have hlogical : i.connection.physical = false := by
    by_contra hphysical
    rw [hfederate] at hmarks
    exact h _ (.tagged hmarks hinlet (Bool.eq_true_of_not_eq_false hphysical))
  have haddressee : plan.addressee source f.federate f.port = .ok i.connection := by
    rw [hfederate, addressee_eq source hinlet]
  rw [dispatchTagged_eq haddressee hlogical, Inbox.deliverTagged, Board.answer,
    ← Board.markPresent_fst]
  rcases inbox.board.markPresent f.port f.tag with ⟨board, - | -⟩ <;> rfl

/-- What is not refused is taken in whole. -/
theorem dispatch_of_accepts (source : Destination) (now : Instant) (inbox : Inbox)
    (h : ∀ detail, ¬ plan.Refuses frame detail) :
    plan.dispatch source now frame inbox = (.ok (inbox.board.reply frame),
      ⟨inbox.board.hear frame,
        inbox.scheduled ++ (frame.received? now).toList⟩) := by
  cases frame with
  | untimedMessage m =>
    obtain ⟨hfederate, i, hinlet⟩ := inlet_of_accepts h rfl rfl
    have hphysical : i.connection.physical = true := by
      by_contra hlogical
      exact h _ (.untimed hfederate hinlet (Bool.eq_false_iff.mpr hlogical))
    rw [dispatch, dispatchUntimed, hfederate, addressee_eq source hinlet]
    simp only [hphysical, if_true]
    rfl
  | peerTaggedMessage m =>
    exact dispatchTagged_of_accepts source now inbox
      (.peerTaggedMessage m.payload) h
  | taggedMessage m =>
    exact dispatchTagged_of_accepts source now inbox (.taggedMessage m.payload) h
  | portAbsent notice =>
    obtain ⟨hfederate, i, hinlet⟩ := inlet_of_accepts h rfl rfl
    -- a notice is for the board alone
    have hnothing : inbox.scheduled ++
        ((Frame.portAbsent notice).received? now).toList
        = inbox.scheduled := List.append_nil _
    rw [hnothing, dispatch, dispatchAbsent, hfederate, addressee_eq source hinlet]
    rfl
  | _ => exact absurd (.stray rfl) (h _)

/-- A fault is always a refusal. -/
theorem dispatch_error_iff {fault : Fault} :
    (plan.dispatch source now frame inbox).1 = .error fault ↔
      ∃ detail,
        plan.Refuses frame detail ∧ fault = .protocol source.render detail := by
  constructor
  · intro hfault
    by_cases h : ∃ detail, plan.Refuses frame detail
    · obtain ⟨detail, hrefuses⟩ := h
      rw [dispatch_of_refuses source now inbox hrefuses] at hfault
      exact ⟨detail, hrefuses, (Except.error.inj hfault).symm⟩
    · rw [dispatch_of_accepts source now inbox (not_exists.mp h)] at hfault
      cases hfault
  · rintro ⟨detail, hrefuses, rfl⟩
    rw [dispatch_of_refuses source now inbox hrefuses]

/-- A frame is refused, and nothing happens, or it is taken in. -/
theorem dispatchIncoming_cases (plan : Plan) (arrival : Incoming) (inbox : Inbox) :
    (∃ fault, plan.dispatchIncoming arrival inbox = (.error fault, inbox)) ∨
      plan.dispatchIncoming arrival inbox = (.ok (inbox.board.reply arrival.frame),
        ⟨inbox.board.hear arrival.frame,
          inbox.scheduled ++ (arrival.frame.received? arrival.now).toList⟩) := by
  by_cases h : ∃ detail, plan.Refuses arrival.frame detail
  · obtain ⟨detail, hrefuses⟩ := h
    exact .inl ⟨_, dispatch_of_refuses arrival.source arrival.now inbox hrefuses⟩
  · exact .inr
      (dispatch_of_accepts arrival.source arrival.now inbox (not_exists.mp h))

/-- A present tag stays so, whatever arrives. -/
theorem present_dispatch (h : inbox.board.status port tag = .present) :
    (plan.dispatch source now frame inbox).2.board.status port tag = .present := by
  rcases board_dispatch plan source now frame inbox with
    hb | ⟨port', tag', message, -, hb⟩
  · rw [hb, h]
  · rw [hb]
    by_cases hport : port = port'
    · subst hport
      exact Board.present_mark_iff.mpr (.inl h)
    · rw [Board.status_mark_of_ne hport, h]

/-! ### A row of frames -/

/-- The frames of a row that are taken in. -/
def taken (plan : Plan) (arrivals : List Incoming) (inbox : Inbox) :
    List Incoming :=
  ((arrivals.zip (inTurn plan.dispatchIncoming arrivals inbox).1).filter
    (·.2.isOk)).map (·.1)

section Taken

variable {arrival : Incoming} {arrivals : List Incoming}

theorem taken_cons_of_error {fault : Fault}
    (h : plan.dispatchIncoming arrival inbox = (.error fault, inbox)) :
    plan.taken (arrival :: arrivals) inbox = plan.taken arrivals inbox := by
  rw [taken, inTurn_cons, h, List.zip_cons_cons,
    List.filter_cons_of_neg (by exact nofun)]
  rfl

theorem taken_cons_of_ok {outcome : Dispatched} {inbox' : Inbox}
    (h : plan.dispatchIncoming arrival inbox = (.ok outcome, inbox')) :
    plan.taken (arrival :: arrivals) inbox
      = arrival :: plan.taken arrivals inbox' := by
  rw [taken, inTurn_cons, h, List.zip_cons_cons, List.filter_cons_of_pos rfl]
  rfl

end Taken

/-- What is scheduled after a row are the messages of the frames that were taken
in. -/
theorem scheduled_dispatchAll (plan : Plan) (arrivals : List Incoming)
    (inbox : Inbox) :
    (inTurn plan.dispatchIncoming arrivals inbox).2.scheduled
      = inbox.scheduled ++
        (plan.taken arrivals inbox).filterMap fun arrival =>
        arrival.frame.received? arrival.now := by
  induction arrivals generalizing inbox with
  | nil => exact (List.append_nil _).symm
  | cons arrival arrivals ih =>
    rw [inTurn_cons]
    rcases dispatchIncoming_cases plan arrival inbox with ⟨fault, h⟩ | h
    · rw [taken_cons_of_error h, h, ih]
    · -- the message of this frame, if it has one, stands behind what was
      -- scheduled before the row
      rw [taken_cons_of_ok h, h, ih, List.append_assoc, List.filterMap_cons]
      cases arrival.frame.received? arrival.now <;> rfl

/-- Without what was refused, a row comes to the same. -/
theorem dispatchAll_taken (plan : Plan) (arrivals : List Incoming) (inbox : Inbox) :
    (inTurn plan.dispatchIncoming (plan.taken arrivals inbox) inbox).2
      = (inTurn plan.dispatchIncoming arrivals inbox).2 := by
  induction arrivals generalizing inbox with
  | nil => rfl
  | cons arrival arrivals ih =>
    rcases dispatchIncoming_cases plan arrival inbox with ⟨fault, h⟩ | h
    · rw [taken_cons_of_error h, inTurn_cons, h, ih]
    · rw [taken_cons_of_ok h, inTurn_cons, inTurn_cons, h, ih]

theorem present_dispatchAll {arrivals : List Incoming}
    (h : inbox.board.status port tag = .present) :
    (inTurn plan.dispatchIncoming arrivals inbox).2.board.status port tag
      = .present := by
  induction arrivals generalizing inbox with
  | nil => exact h
  | cons arrival arrivals ih => exact ih (present_dispatch h)

/-- Where a message was taken in for a tag, the tag is present after the row. -/
theorem present_of_taken {arrivals : List Incoming} {arrival : Incoming}
    {receiver : FederateId} (h : arrival ∈ plan.taken arrivals inbox)
    (hmarks : arrival.frame.Marks port receiver tag true) :
    (inTurn plan.dispatchIncoming arrivals inbox).2.board.status port tag
      = .present := by
  induction arrivals generalizing inbox with
  | nil => cases h
  | cons first arrivals ih =>
    rw [inTurn_cons]
    rcases dispatchIncoming_cases plan first inbox with ⟨fault, hfirst⟩ | hfirst
    · rw [taken_cons_of_error hfirst] at h
      rw [hfirst]
      exact ih h
    · rw [taken_cons_of_ok hfirst] at h
      rw [hfirst]
      rcases List.mem_cons.mp h with rfl | hlater
      · -- present at once, and so it stays
        apply present_dispatchAll
        dsimp only
        rw [Board.hear_of_marks hmarks]
        exact Board.present_mark_iff.mpr (.inr ⟨rfl, rfl⟩)
      · exact ih hlater

/-- **Nothing is lost, and a fault changes nothing.** From a row of frames a
federate schedules the messages of those that it takes in, in their order and each
once, as they came. The rest is refused, each frame for itself: a fault tells what
is refused, whatever came before, and leaves the inbox as it was. And for each
message with a tag that is reported as delivered or tardy, the tag is present
after the row. -/
theorem dispatch_accounts_for_all (plan : Plan) (arrivals : List Incoming)
    (inbox : Inbox) :
    let results := (inTurn plan.dispatchIncoming arrivals inbox).1
    let after := (inTurn plan.dispatchIncoming arrivals inbox).2
    after.scheduled = inbox.scheduled ++
      (plan.taken arrivals inbox).filterMap
      (fun arrival => arrival.frame.received? arrival.now) ∧
    (∀ arrival inbox' fault,
      (plan.dispatchIncoming arrival inbox').1 = .error fault ↔
      ∃ detail, plan.Refuses arrival.frame detail ∧
        fault = .protocol arrival.source.render detail) ∧
    (∀ arrival inbox' fault,
      (plan.dispatchIncoming arrival inbox').1 = .error fault →
      (plan.dispatchIncoming arrival inbox').2 = inbox') ∧
    (inTurn plan.dispatchIncoming (plan.taken arrivals inbox) inbox).2 = after ∧
    ∀ entry ∈ arrivals.zip results,
      entry.2 = .ok .delivered ∨ entry.2 = .ok .tardy →
      ∀ port receiver tag, entry.1.frame.Marks port receiver tag true →
        after.board.status port tag = .present := by
  refine ⟨scheduled_dispatchAll plan arrivals inbox, ?_, ?_,
    dispatchAll_taken plan arrivals inbox, ?_⟩
  · intro arrival inbox' fault
    exact dispatch_error_iff
  · intro arrival inbox' fault hfault
    obtain ⟨detail, hrefuses, -⟩ := dispatch_error_iff.mp hfault
    rw [dispatchIncoming,
      dispatch_of_refuses arrival.source arrival.now inbox' hrefuses]
  · intro entry hentry houtcome port receiver tag hmarks
    -- what is reported as delivered or tardy was taken in
    have hok : entry.2.isOk = true := by
      rcases houtcome with h | h <;> rw [h] <;> rfl
    have htaken : entry.1 ∈ plan.taken arrivals inbox :=
      List.mem_map_of_mem (List.mem_filter.mpr ⟨hentry, hok⟩)
    exact present_of_taken htaken hmarks

/-- What arrives at the last federate of the triangle: what it takes in, and one
of each that it refuses. -/
def triangleTraffic : List Incoming :=
  [⟨.federate ⟨0⟩, .epoch, .peerTaggedMessage ⟨⟨0⟩, ⟨2⟩, ⟨.epoch, 4⟩, .empty⟩⟩,
   ⟨.coordinator, .epoch, .resign⟩,
   ⟨.federate ⟨0⟩, .epoch, .taggedMessage ⟨⟨0⟩, ⟨1⟩, ⟨.epoch, 5⟩, .empty⟩⟩,
   ⟨.federate ⟨1⟩, .epoch, .portAbsent ⟨⟨1⟩, ⟨2⟩, ⟨.epoch, 9⟩⟩⟩,
   ⟨.federate ⟨1⟩, .epoch, .portAbsent ⟨⟨3⟩, ⟨2⟩, ⟨.epoch, 9⟩⟩⟩,
   ⟨.federate ⟨0⟩, .epoch, .peerTaggedMessage ⟨⟨2⟩, ⟨2⟩, ⟨.epoch, 6⟩, .empty⟩⟩,
   ⟨.federate ⟨0⟩, .epoch, .untimedMessage ⟨⟨0⟩, ⟨2⟩, .empty⟩⟩,
   ⟨.federate ⟨0⟩, .epoch, .untimedMessage ⟨⟨2⟩, ⟨2⟩, .empty⟩⟩,
   ⟨.coordinator, .epoch, .taggedMessage ⟨⟨1⟩, ⟨2⟩, ⟨.epoch, 8⟩, .empty⟩⟩]

theorem dispatch_accounts_for_all_on_triangle :
    ∃ receiver, build ⟨2⟩ triangle .decentralized (fun _ => .zero) = .ok receiver ∧
      let after := (inTurn receiver.dispatchIncoming triangleTraffic {}).2
      after.scheduled
        = [⟨⟨0⟩, .empty, .epoch, some ⟨.epoch, 4⟩⟩, ⟨⟨2⟩, .empty, .epoch, none⟩,
        ⟨⟨1⟩, .empty, .epoch, some ⟨.epoch, 8⟩⟩] ∧
      after.board.status ⟨0⟩ ⟨.epoch, 4⟩ = .present ∧
      after.board.status ⟨1⟩ ⟨.epoch, 8⟩ = .present := by
  refine ⟨_, rfl, ?_⟩
  obtain ⟨hscheduled, -, -, -, hpresent⟩ :=
    dispatch_accounts_for_all _ triangleTraffic {}
  refine ⟨hscheduled.trans ?_, ?_, ?_⟩
  · decide
  · apply hpresent (triangleTraffic[0], .ok .delivered)
      (List.mem_of_getElem? (i := 0) rfl) (.inl rfl)
    exact .peerTaggedMessage _
  · apply hpresent (triangleTraffic[8], .ok .tardy)
      (List.mem_of_getElem? (i := 8) rfl) (.inr rfl)
    exact .taggedMessage _

end Plan

end Federation
