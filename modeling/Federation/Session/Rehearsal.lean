/-
Federation/Session/Rehearsal.lean

A federate and a coordinator that follows a script.

The coordinator of a script sends one reply after each frame that it hears,
whatever the frame is. When it has sent the last one it ends its side, unless it
holds the link. So what has come in depends on how many frames the federate has
sent, and that on what has come in: `Session.rehearse` goes on from nothing
until the two agree.
-/
import Federation.Link.Inflow
import Federation.Session.Start

namespace Federation

/-- What a coordinator sends, whatever it hears. -/
structure Script where
  /-- The bytes to send after each frame. -/
  replies : List ByteArray
  /-- Whether the link is held after the last reply. -/
  hold : Bool

/-- What has come in from the coordinator when it has heard so many frames. -/
def Script.said (script : Script) (heard : Nat) : FrameStream :=
  let inflow := (script.replies.take heard).foldl Inflow.feed {}
  (if heard < script.replies.length ∨ script.hold then inflow
    else inflow.close .endOfInput).stream

/-- How far a federate has come with such a coordinator. -/
structure Rehearsal (μ : Type) where
  start : Except Fault Unit
  session : Session μ
  /-- What was written before the link was registered. -/
  wire : Wire

namespace Rehearsal

variable {μ : Type}

/-- The frames that were sent to the coordinator. -/
def frames (r : Rehearsal μ) : List Frame :=
  let wire := ((r.session.node.transport.coordinator.map (·.wire))).getD r.wire
  (Cursor.frames { bytes := wire.written }).frames

/-- The messages that are scheduled, by their ports. -/
def scheduled (r : Rehearsal μ) : List ReceivedMessage :=
  r.session.federate.inbox.scheduled.mergeSort fun a b =>
    a.port.number ≤ b.port.number

/-- Delivers what is scheduled, and shuts down. -/
def conclude (r : Rehearsal μ) : List (Except Fault Unit) × Rehearsal μ :=
  let (results, node) := inTurn (fun m n => n.deliver m) r.scheduled r.session.node
  (results, { r with session := Session.shutdown { r.session with node } false })

/-- The faults that were reported. That nothing has come in so far is none. -/
def faults (r : Rehearsal μ) : List Fault :=
  r.session.node.faults.filter fun e => !e.isStarved

end Rehearsal

namespace Session

variable {μ : Type}

/-- Starts, and reads what comes in. -/
def hear (stream : FrameStream) (s : Session μ) : Rehearsal μ :=
  let net := Network.scripted stream
  match s.depart.openCoordinator net with
  | .error e => ⟨.error e, s.depart, {}⟩
  | .ok link =>
    let (result, r) := startOver net { session := s.depart, link }
    let session := match result with
      | .ok () => r.session.readCoordinator r.link
      | .error _ => r.session
    ⟨result, session, r.link.socket.wire⟩

/-- Goes on for up to so many replies more, after a number of frames that were
heard. -/
def rehearseFrom (script : Script) (s : Session μ) :
    (more heard : Nat) → Rehearsal μ
  | 0, heard => s.hear (script.said heard)
  | more + 1, heard =>
    let r := s.hear (script.said heard)
    if r.frames.length ≤ heard then r
      else rehearseFrom script s more r.frames.length

/-- Starts with a coordinator that follows a script, and reads what it says. -/
def rehearse (script : Script) (s : Session μ) : Rehearsal μ :=
  s.rehearseFrom script (script.replies.length + 1) 0

end Session

end Federation
