/-
Federation/Link/Conversation.lean

Conversations over a link.

A `Conversation` receives frames, sends frames, reads and corrects the clock,
takes data into the inbox, and pauses; it ends with a result or a fault, and
either way with all that it did. `peer` is what a fault calls the other side.
Pauses take no time here: they are recorded, the first one first.
-/
import Federation.Clock
import Federation.Dispatch
import Federation.Duration
import Federation.Link.Basic

namespace Federation

/-- The state of a conversation: the link, the clock, the inbox, and the pauses
so far. -/
structure Dialogue (σ : Type) where
  link : σ
  clock : Clock
  inbox : Inbox := {}
  pauses : List Duration := []

/-- Takes in a frame that came from `source`. -/
def Dialogue.dispatch {σ : Type} (plan : Plan) (source : Destination)
    (f : Frame) (d : Dialogue σ) : Except Fault Dispatched × Dialogue σ :=
  let (result, inbox) := plan.dispatch source d.clock.now f d.inbox
  (result, { d with inbox, clock := d.clock.tick })

/-- A conversation over a link of type `σ`. -/
abbrev Conversation (σ α : Type) := ExceptT Fault (StateM (Dialogue σ)) α

namespace Conversation

variable {σ : Type}

/-- Receives the next frame. -/
def receive [FrameSource σ] (peer : String) : Conversation σ Frame := fun d =>
  let (frame, link) := FrameSource.next d.link
  (frame.mapError (Fault.ofRead peer), { d with link })

/-- Sends a frame. -/
def send [Link σ] (peer : String) (f : Frame) : Conversation σ Unit := fun d =>
  let (result, link) := Link.send f d.link
  (result.mapError (Fault.ofWrite peer), { d with link })

/-- Sends a frame if that succeeds. -/
def trySend [Link σ] (f : Frame) : Conversation σ Unit := fun d =>
  (.ok (), { d with link := (Link.send f d.link).2 })

/-- Reads the clock. -/
def now : Conversation σ Instant :=
  fun d => (.ok d.clock.now, { d with clock := d.clock.tick })

/-- Applies a correction to the clock. -/
def adjustClock (correction : Interval) : Conversation σ Unit := fun d =>
  (.ok (), { d with clock := (d.clock.adjust correction).1 })

/-- Pauses. -/
def pause (length : Duration) : Conversation σ Unit := fun d =>
  (.ok (), { d with pauses := d.pauses ++ [length] })

variable {d : Dialogue σ} {link : σ}

/-- A conversation receives what the link gives, and calls a failure by the name
of the peer. -/
theorem receive_of_next [FrameSource σ] {x : Except FrameError Frame}
    (h : FrameSource.next d.link = (x, link)) (peer : String) :
    receive peer d = (x.mapError (Fault.ofRead peer), { d with link }) := by
  rw [receive, h]

/-- It sends what the link takes. -/
theorem send_of_send [Link σ] {f : Frame} {x : Except FrameError Unit}
    (h : Link.send f d.link = (x, link)) (peer : String) :
    send peer f d = (x.mapError (Fault.ofWrite peer), { d with link }) := by
  rw [send, h]

@[simp] theorem now_apply (d : Dialogue σ) :
    now d = (.ok d.clock.now, { d with clock := d.clock.tick }) := rfl

end Conversation

end Federation
