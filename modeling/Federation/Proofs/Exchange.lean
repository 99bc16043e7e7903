/-
Federation/Proofs/Exchange.lean

What one side sends and the other takes in.

An outlet that has something to send makes exactly one call of its `Post`
(`send_eq`), with a frame that depends on the way of its messages, the tag of
arrival and the payload (`messageFrame`). What an outlet can have to send or to
announce at all is said by `message?_ok` and `notice?_ok`. An inlet of the same
connection takes the frame of a value in: whatever is on the board, it schedules
one message more (`dispatch_messageFrame`).

On a logical connection a value and its absence differ to the board in one thing
only: either frame is a mark of the tag of arrival (`Frame.Marks`), and the
board of the receiver takes it as such (`dispatch_of_marks`). This is all that a
frame can do to the board (`board_dispatch`), so frames for other inputs leave
the status of this one alone (`status_dispatch_of_ne`).
-/
import Mathlib
import Federation.Dispatch
import Federation.Output
import Federation.Proofs.Marks

namespace Federation

variable {μ : Type}

/-! ### Ports as a reaction sees them -/

/-- Whether a port is shown as present exactly if a value of it is shown. -/
def PortView.Consistent (view : PortView μ) (port : Port) : Prop :=
  view.isPresent port = (view.value? port).isSome

theorem PortStore.view_consistent (s : PortStore μ) (port : Port) :
    s.view.Consistent port := rfl

/-! ### Frames as marks -/

/-- What a frame says of one input of a federate: that a message has arrived at
the tag, or that none has through the tag. -/
inductive Frame.Marks (port : PortId) (receiver : FederateId) (tag : Tag) :
    Bool → Frame → Prop
  | peerTaggedMessage (payload : ByteArray) :
      Marks port receiver tag true
        (.peerTaggedMessage ⟨port, receiver, tag, payload⟩)
  | taggedMessage (payload : ByteArray) :
      Marks port receiver tag true (.taggedMessage ⟨port, receiver, tag, payload⟩)
  | portAbsent : Marks port receiver tag false (.portAbsent ⟨port, receiver, tag⟩)

/-- The input that a data frame is addressed to. -/
def Frame.action? : Frame → Option PortId
  | .untimedMessage m => some m.port
  | .peerTaggedMessage m => some m.port
  | .taggedMessage m => some m.port
  | .portAbsent notice => some notice.port
  | _ => none

theorem Frame.Marks.action?_eq {port : PortId} {receiver : FederateId}
    {tag : Tag} {message : Bool} {frame : Frame}
    (h : frame.Marks port receiver tag message) : frame.action? = some port := by
  cases h <;> rfl

theorem Connection.route_of_physical {c : Connection} (h : c.physical = true)
    (m : Coordination) :
    c.route m = .untimedDirect := by
  unfold route
  rw [if_pos h]

theorem Connection.route_of_logical {c : Connection} (h : c.physical = false)
    (m : Coordination) :
    c.route m = match m with
      | .decentralized => .taggedDirect
      | .centralized => .taggedViaCoordinator := by
  cases m <;> simp [route, h]

/-! ### The sender -/

namespace Outlet

variable {σ : Type} {o : Outlet} {ctx : Context μ} {view : PortView μ}
  {m : Coordination}
variable {arrival : Tag} {payload : ByteArray} {value : PortValue μ}

/-- The frame that carries a payload on the connection, to arrive at a tag if it
is logical. -/
def messageFrame (o : Outlet) (m : Coordination) (arrival : Tag)
    (payload : ByteArray) : Frame :=
  match o.connection.route m with
  | .untimedDirect => .untimedMessage ⟨o.port, o.receiver, payload⟩
  | .taggedDirect => .peerTaggedMessage ⟨o.port, o.receiver, arrival, payload⟩
  | .taggedViaCoordinator => .taggedMessage ⟨o.port, o.receiver, arrival, payload⟩

theorem messageFrame_physical (h : o.connection.physical = true) :
    o.messageFrame m arrival payload
      = .untimedMessage ⟨o.port, o.receiver, payload⟩ := by
  rw [messageFrame, Connection.route_of_physical h]

theorem messageFrame_marks (h : o.connection.physical = false) :
    (o.messageFrame m arrival payload).Marks o.port o.receiver arrival true := by
  rw [messageFrame, Connection.route_of_logical h]
  cases m with
  | centralized => exact .taggedMessage payload
  | decentralized => exact .peerTaggedMessage payload

theorem value?_of_consistent (h : view.Consistent o.connection.source.port) :
    o.value? view = view.value? o.connection.source.port := by
  rw [value?]
  split
  · next hif =>
    -- an element of a bank or a multiport that is not present has no value to show
    rw [h] at hif
    simp only [Bool.and_eq_true, Bool.not_eq_true', Option.isSome_eq_false_iff,
      Option.isNone_iff_eq_none] at hif
    exact hif.2.symm
  · rfl

theorem frame_eq (h : o.connection.isLogical = true →
      view.tag.delayed o.connection.delay = .ok arrival) :
    o.frame m view payload = .ok (o.messageFrame m arrival payload) := by
  unfold frame messageFrame
  rcases hp : o.connection.physical with - | -
  · have harrival : o.arrivalTag view = .ok arrival := by
      rw [arrivalTag, h (Connection.isLogical_iff.mpr hp)]
      rfl
    rw [Connection.route_of_logical hp, harrival]
    cases m <;> rfl
  · rw [Connection.route_of_physical hp]

/-- What there is to send of a value with a payload. -/
theorem message?_eq (hvalue : o.value? view = some value)
    (hpayload : ctx.codec.encode o.connection.serializer o.connection.valueType
      value = .ok payload) (harrival : o.connection.isLogical = true →
      view.tag.delayed o.connection.delay = .ok arrival) :
    o.message? ctx view = .ok (some
      ⟨o.destination ctx.coordination,
        o.messageFrame ctx.coordination arrival payload⟩) := by
  have hencode : o.encode ctx.codec value = .ok payload := by
    rw [encode, hpayload]
    rfl
  rw [o.message?_of_encode hvalue hencode, frame_eq harrival]
  rfl

/-- A value with a payload is sent, by one call. -/
theorem send_eq (hvalue : o.value? view = some value)
    (hpayload : ctx.codec.encode o.connection.serializer o.connection.valueType
      value = .ok payload) (harrival : o.connection.isLogical = true →
      view.tag.delayed o.connection.delay = .ok arrival) (post : Post σ) (s : σ) :
    let parcel : Parcel :=
      ⟨o.destination ctx.coordination,
        o.messageFrame ctx.coordination arrival payload⟩
    o.send post ctx view s = (o.settle (post parcel s).1, (post parcel s).2) := by
  rw [send, message?_eq hvalue hpayload harrival]

/-- What there is to announce of a port that is not present. -/
theorem notice?_eq (hpresent : view.isPresent o.connection.source.port = false)
    (harrival : view.tag.delayed o.connection.delay = .ok arrival) :
    o.notice? ctx view = .ok (some
      ⟨o.destination ctx.coordination,
        .portAbsent ⟨o.port, o.receiver, arrival⟩⟩) := by
  rw [notice?, hpresent, arrivalTag, harrival]
  rfl

theorem arrivalTag_ok (h : o.arrivalTag view = .ok arrival) :
    view.tag.delayed o.connection.delay = .ok arrival := by
  rw [arrivalTag] at h
  rcases hdelayed : view.tag.delayed o.connection.delay with e | arrival'
  · rw [hdelayed] at h
    cases h
  · rw [hdelayed] at h
    cases h
    rfl

/-- Over a logical connection, a frame with a payload is a mark of the delayed
tag. -/
theorem frame_ok {frame : Frame} (hlogical : o.connection.physical = false)
    (h : o.frame m view payload = .ok frame) :
    ∃ arrival, view.tag.delayed o.connection.delay = .ok arrival ∧
      frame.Marks o.port o.receiver arrival true := by
  rcases hdelayed : view.tag.delayed o.connection.delay with e | arrival
  · have htag : o.arrivalTag view = .error (.time e) := by
      rw [arrivalTag, hdelayed]
      rfl
    unfold Outlet.frame at h
    rw [Connection.route_of_logical hlogical, htag] at h
    cases m <;> cases h
  · rw [frame_eq fun _ => hdelayed] at h
    cases h
    exact ⟨arrival, rfl, messageFrame_marks hlogical⟩

/-- What there is to send, if nothing goes wrong: nothing without a value, else
its frame. -/
theorem message?_ok {parcel? : Option Parcel}
    (h : o.message? ctx view = .ok parcel?) :
    (o.value? view = none ∧ parcel? = none) ∨
      ∃ value payload frame, o.value? view = some value ∧
        o.encode ctx.codec value = .ok payload ∧
        o.frame ctx.coordination view payload = .ok frame ∧
        parcel? = some ⟨o.destination ctx.coordination, frame⟩ := by
  rcases hvalue : o.value? view with - | value
  · rw [message?, hvalue] at h
    cases h
    exact .inl ⟨rfl, rfl⟩
  · rcases hpayload : o.encode ctx.codec value with e | payload
    · rw [message?, hvalue] at h
      simp only [hpayload] at h
      cases h
    · rw [o.message?_of_encode hvalue hpayload] at h
      rcases hframe : o.frame ctx.coordination view payload with e | frame
      · rw [hframe] at h
        cases h
      · rw [hframe] at h
        cases h
        exact .inr ⟨value, payload, frame, rfl, hpayload, hframe, rfl⟩

/-- What there is to announce, if nothing goes wrong: nothing of a port that is
present. -/
theorem notice?_ok {parcel? : Option Parcel}
    (h : o.notice? ctx view = .ok parcel?) :
    (view.isPresent o.connection.source.port = true ∧ parcel? = none) ∨
      ∃ arrival, view.isPresent o.connection.source.port = false ∧
        o.arrivalTag view = .ok arrival ∧
        parcel? = some ⟨o.destination ctx.coordination,
          .portAbsent ⟨o.port, o.receiver, arrival⟩⟩ := by
  rw [notice?] at h
  split at h
  · next hpresent =>
    cases h
    exact .inl ⟨hpresent, rfl⟩
  · next habsent =>
    rcases htag : o.arrivalTag view with e | arrival
    · rw [htag] at h
      cases h
    · rw [htag] at h
      cases h
      exact .inr ⟨arrival, Bool.eq_false_iff.mpr habsent, rfl, rfl⟩

end Outlet

/-! ### The receiver -/

namespace Plan

variable {plan : Plan} {i : Inlet} {inbox : Inbox} {source : Destination}
  {now : Instant}
variable {port : PortId} {tag : Tag} {message : Bool} {frame : Frame}

theorem addressee_eq (source : Destination) (h : plan.inlet? port = some i) :
    plan.addressee source plan.federate port = .ok i.connection := by
  rw [addressee, if_pos rfl, h]

theorem board_deliverTagged (f : TaggedMessage) :
    (inbox.deliverTagged now f).1.board = inbox.board.mark f.port f.tag true :=
  Board.markPresent_fst

theorem dispatchTagged_eq {c : Connection} {f : TaggedMessage}
    (haddressee : plan.addressee source f.federate f.port = .ok c)
    (hlogical : c.physical = false) :
    plan.dispatchTagged source now f inbox =
      (.ok (inbox.deliverTagged now f).2, (inbox.deliverTagged now f).1) := by
  rw [dispatchTagged, haddressee]
  simp only [hlogical, Bool.false_eq_true, if_false]

/-- A message on the connection of an inlet is scheduled there, whatever is on
the board. -/
theorem dispatch_messageFrame {o : Outlet} (m : Coordination) (tag : Tag)
    (payload : ByteArray) (hinlet : plan.inlet? o.port = some i)
    (hconnection : i.connection = o.connection)
    (hreceiver : o.receiver = plan.federate) (inbox : Inbox)
    (source : Destination) (now : Instant) :
    ∃ outcome board,
      plan.dispatch source now (o.messageFrame m tag payload) inbox
        = (.ok outcome, ⟨board,
        inbox.scheduled ++
          [⟨o.port, payload, now,
            if o.connection.isLogical then some tag else none⟩]⟩) := by
  have haddressee : plan.addressee source o.receiver o.port = .ok o.connection := by
    rw [hreceiver, addressee_eq source hinlet, hconnection]
  rcases hp : o.connection.physical with - | -
  · rw [if_pos (Connection.isLogical_iff.mpr hp), Outlet.messageFrame,
      Connection.route_of_logical hp]
    cases m <;> exact ⟨_, _, dispatchTagged_eq haddressee hp⟩
  · refine ⟨.delivered, inbox.board, ?_⟩
    rw [if_neg (by simp [hp]), Outlet.messageFrame_physical hp, dispatch,
      dispatchUntimed, haddressee]
    simp only [hp, if_true]
    rfl

/-- The board of the receiver takes a mark as such. -/
theorem dispatch_of_marks (source : Destination) (now : Instant) (inbox : Inbox)
    (hinlet : plan.inlet? port = some i) (hlogical : i.connection.physical = false)
    (h : frame.Marks port plan.federate tag message) :
    (plan.dispatch source now frame inbox).2.board
      = inbox.board.mark port tag message := by
  have haddressee := addressee_eq source hinlet
  have htagged : ∀ payload,
      (plan.dispatchTagged source now
        ⟨port, plan.federate, tag, payload⟩ inbox).2.board
        = inbox.board.mark port tag true := by
    intro payload
    rw [dispatchTagged_eq (f := ⟨port, plan.federate, tag, payload⟩) haddressee
      hlogical, board_deliverTagged]
  cases h with
  | peerTaggedMessage payload => exact htagged payload
  | taggedMessage payload => exact htagged payload
  | portAbsent =>
    simp only [dispatch, dispatchAbsent, haddressee, Board.markAbsent_eq]

/-- What gets past the check of the address is meant for this federate. -/
theorem federate_of_addressee {federate : FederateId} {c : Connection}
    (h : plan.addressee source federate port = .ok c) :
    federate = plan.federate := by
  by_contra hne
  rw [addressee, if_neg hne] at h
  cases h

theorem board_dispatchTagged (plan : Plan) (source : Destination)
    (now : Instant) (m : TaggedMessage) (inbox : Inbox) :
    (plan.dispatchTagged source now m inbox).2.board = inbox.board ∨
      m.federate = plan.federate ∧ (plan.dispatchTagged source now m inbox).2.board
        = inbox.board.mark m.port m.tag true := by
  rw [dispatchTagged]
  split
  · exact .inl rfl
  · next haddressee =>
    split
    · exact .inl rfl
    · exact .inr ⟨federate_of_addressee haddressee, board_deliverTagged m⟩

/-- All that a frame can do to the board: nothing, or what it marks. -/
theorem board_dispatch (plan : Plan) (source : Destination) (now : Instant)
    (frame : Frame) (inbox : Inbox) :
    (plan.dispatch source now frame inbox).2.board = inbox.board ∨
      ∃ port tag message, frame.Marks port plan.federate tag message ∧
        (plan.dispatch source now frame inbox).2.board
          = inbox.board.mark port tag message := by
  cases frame with
  | untimedMessage f =>
    -- the board records no untimed message, whether it is taken in or refused
    refine .inl ?_
    simp only [dispatch, dispatchUntimed]
    split
    · rfl
    · split <;> rfl
  | peerTaggedMessage f =>
    refine (board_dispatchTagged plan source now f inbox).imp_right fun ⟨hf, hb⟩ =>
      ⟨f.port, f.tag, true, ?_, hb⟩
    rw [← hf]
    exact .peerTaggedMessage f.payload
  | taggedMessage f =>
    refine (board_dispatchTagged plan source now f inbox).imp_right fun ⟨hf, hb⟩ =>
      ⟨f.port, f.tag, true, ?_, hb⟩
    rw [← hf]
    exact .taggedMessage f.payload
  | portAbsent notice =>
    -- the kind of the connection is not asked for
    simp only [dispatch, dispatchAbsent]
    split
    · exact .inl rfl
    · next haddressee =>
      refine .inr ⟨notice.port, notice.tag, false, ?_, Board.markAbsent_eq⟩
      rw [← federate_of_addressee haddressee]
      exact .portAbsent
  | _ => exact .inl rfl

/-- What is not addressed to an input leaves its status alone. -/
theorem status_dispatch_of_ne (h : frame.action? ≠ some port) (g : Tag) :
    (plan.dispatch source now frame inbox).2.board.status port g
      = inbox.board.status port g := by
  rcases board_dispatch plan source now frame inbox with
    hb | ⟨port', tag, message, hmarks, hb⟩
  · rw [hb]
  · rw [hb, Board.status_mark_of_ne]
    rintro rfl
    exact h hmarks.action?_eq

end Plan

end Federation
