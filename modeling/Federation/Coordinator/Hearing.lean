/-
Federation/Coordinator/Hearing.lean

A link with a coordinator at its other end.

A `Hearing` is a conversation of a coordinator with one federate, seen as the
federate's link: what the federate sends is heard at once, and what the
coordinator sends back waits until the federate receives it. Frames go over the
link as bytes, so a frame that reads back as another one is heard as that.
Frames for other federates are put aside. To receive when nothing is waiting
fails: with the end of the input if the conversation has ended, and otherwise as
a read that waits too long.
-/
import Federation.Coordinator.Basic
import Federation.Link.Basic

namespace Federation

/-- A conversation of a coordinator with one federate. -/
structure Hearing where
  coordinator : Coordinator
  phase : HearingPhase := .greeting
  /-- What the coordinator has sent back and the federate has not received yet. -/
  pending : List Frame := []
  /-- What is meant for other federates. -/
  onward : List (FederateId × Frame) := []

namespace Hearing

variable (h : Hearing)

/-- Receives what the coordinator sent back. -/
def next : Except FrameError Frame × Hearing :=
  match h.pending with
  | f :: fs => (.ok f, { h with pending := fs })
  | [] => (.error (.io (if h.phase = .ended then .endOfInput else .readTimeout)), h)

/-- The federate that the coordinator hears, once it has said who it is. -/
def federate? : Option FederateId :=
  match h.phase with
  | .introducing f | .relaying f | .syncing f _ => some f
  | .greeting | .ended => none

/-- Posts a letter of the coordinator. -/
def post (h : Hearing) : Letter → Hearing
  | .back f => { h with pending := h.pending ++ [f] }
  | .onward receiver f =>
    if h.federate? = some receiver then { h with pending := h.pending ++ [f] }
    else { h with onward := h.onward ++ [(receiver, f)] }

/-- The coordinator hears a frame. -/
def hear (f : Frame) : Hearing :=
  let (coordinator, phase, letters) := h.coordinator.hear h.phase f
  letters.foldl post { h with coordinator, phase }

/-- Sends a frame to the coordinator. What is no frame ends the conversation. -/
def send (f : Frame) (h : Hearing) : Except FrameError Unit × Hearing :=
  match f.encode with
  | .error e => (.error e, h)
  | .ok bytes =>
    match Frame.decode bytes with
    | .ok heard => (.ok (), h.hear heard)
    | .error _ =>
      (.ok (),
        { h with coordinator := h.coordinator.lose h.phase, phase := .ended })

/-- What is received is taken off what waits. -/
theorem length_lt_of_next {h h' : Hearing} {f : Frame} (eq : h.next = (.ok f, h')) :
    h'.pending.length < h.pending.length := by
  unfold next at eq
  split at eq
  · cases eq
    simp_all
  · cases eq

instance : Link Hearing where
  next := next
  size h := h.pending.length
  size_lt_of_next := length_lt_of_next
  send := send

end Hearing

end Federation
