/-
Federation/Dispatch.lean

Frames that arrive at a federate.

A data frame that is addressed to an action of the federate is recorded on the
board and, if it is a message, scheduled at its action. A message must carry a
tag exactly if its connection is logical. Any other frame is a fault of the one
it came from, and leaves the inbox as it was.

A message is scheduled even if its tag was already taken for absent; the result
tells.
-/
import Federation.Board.Basic
import Federation.Fault
import Federation.Plan

namespace Federation

/-- A message as it was received. -/
@[ext] structure ReceivedMessage where
  /-- The action at which the message is scheduled. -/
  port : PortId
  payload : ByteArray
  /-- What the clock showed when the message arrived. -/
  arrival : Instant
  /-- The tag that the message is intended for. -/
  intended : Option Tag
deriving DecidableEq

/-- What has arrived at a federate: the board, and the messages that are
scheduled, in order. -/
@[ext] structure Inbox where
  board : Board := {}
  scheduled : List ReceivedMessage := []

/-- What became of a frame. -/
inductive Dispatched where
  | delivered
  /-- Delivered, though the tag had already been taken for absent. -/
  | tardy
  | absentRecorded
deriving DecidableEq

namespace Inbox

/-- Schedules a message behind those that are scheduled. -/
def schedule (inbox : Inbox) (m : ReceivedMessage) : Inbox :=
  { inbox with scheduled := inbox.scheduled ++ [m] }

/-- Takes the scheduled messages out. -/
def takeScheduled (inbox : Inbox) : List ReceivedMessage × Inbox :=
  (inbox.scheduled, { inbox with scheduled := [] })

/-- Records and schedules a tagged message. -/
def deliverTagged (inbox : Inbox) (now : Instant) (m : TaggedMessage) :
    Inbox × Dispatched :=
  let (board, mark) := inbox.board.markPresent m.port m.tag
  ({ inbox with board }.schedule ⟨m.port, m.payload, now, some m.tag⟩,
    match mark with
    | .accepted => .delivered
    | .tardy => .tardy)

/-- Schedules an untimed message. -/
def deliverUntimed (inbox : Inbox) (now : Instant) (m : UntimedMessage) : Inbox :=
  inbox.schedule ⟨m.port, m.payload, now, none⟩

end Inbox

/-- Whether the board records a frame that a federate takes in. -/
def Frame.isRecorded : Frame → Bool
  | .peerTaggedMessage _ | .taggedMessage _ | .portAbsent _ => true
  | _ => false

namespace Plan

variable (plan : Plan)

/-- The connection of the action that a frame is addressed to. -/
def addressee (source : Destination) (federate : FederateId) (port : PortId) :
    Except Fault Connection :=
  if federate = plan.federate then
    match plan.inlet? port with
    | some i => .ok i.connection
    | none =>
      .error
        (.protocol source.render ("no network message action for " ++ port.render))
  else
    .error (.protocol source.render
      ("message addressed to " ++ federate.render ++ ", this is " ++
        plan.federate.render))

/-- Takes in a tagged message. -/
def dispatchTagged (source : Destination) (now : Instant) (m : TaggedMessage)
    (inbox : Inbox) : Except Fault Dispatched × Inbox :=
  match plan.addressee source m.federate m.port with
  | .error e => (.error e, inbox)
  | .ok c =>
    if c.physical then
      (.error (.protocol source.render
        ("tagged message on physical connection " ++ c.render)),
        inbox)
    else
      let (inbox, outcome) := inbox.deliverTagged now m
      (.ok outcome, inbox)

/-- Takes in an untimed message. -/
def dispatchUntimed (source : Destination) (now : Instant) (m : UntimedMessage)
    (inbox : Inbox) : Except Fault Dispatched × Inbox :=
  match plan.addressee source m.federate m.port with
  | .error e => (.error e, inbox)
  | .ok c =>
    if c.physical then (.ok .delivered, inbox.deliverUntimed now m)
    else
      (.error (.protocol source.render
        ("untimed message on logical connection " ++ c.render)),
        inbox)

/-- Takes in a notice of absence. -/
def dispatchAbsent (source : Destination) (notice : AbsentNotice) (inbox : Inbox) :
    Except Fault Dispatched × Inbox :=
  match plan.addressee source notice.federate notice.port with
  | .error e => (.error e, inbox)
  | .ok _ =>
    (.ok .absentRecorded,
      { inbox with board := inbox.board.markAbsent notice.port notice.tag })

/-- Takes in a frame that came from `source` when the clock showed `now`. -/
def dispatch (source : Destination) (now : Instant) (frame : Frame)
    (inbox : Inbox) : Except Fault Dispatched × Inbox :=
  match frame with
  | .untimedMessage m => plan.dispatchUntimed source now m inbox
  | .peerTaggedMessage m => plan.dispatchTagged source now m inbox
  | .taggedMessage m => plan.dispatchTagged source now m inbox
  | .portAbsent notice => plan.dispatchAbsent source notice inbox
  | f =>
    (.error (.protocol source.render ("unexpected " ++ f.kindName ++ " frame")),
      inbox)

/-- Takes every input of the federate for absent through a tag, but for the
messages that arrived. -/
def resolveAbsentThrough (tag : Tag) (board : Board) : Board :=
  (List.range plan.inlets.length).foldl
    (fun b i => b.markAbsent ⟨UInt16.ofNat i⟩ tag) board

/-- The receiving side of a plan as diagnostics show it. -/
def renderDispatcher : String :=
  "InboundDispatcher \x7b federate: " ++ plan.federate.renderInList ++
    ", actions: " ++ toString plan.inlets.length ++ ", .. \x7d"

end Plan

end Federation
