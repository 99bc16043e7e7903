/-
Federation/Link/Basic.lean

One end of a connection.

The sending side of a connection is a `Wire`: what has been written to it, and
how much more it takes. What does not fit is written in part, and fails. A
`Socket` is a wire together with a source of frames.

Conversations are held over any `Link`: a source of frames to which frames can
be sent as well.
-/
import Federation.Frame.Encode
import Federation.Frame.Source

namespace Federation

/-- The sending side of a connection. -/
@[ext] structure Wire where
  written : ByteArray := .empty
  /-- How many more bytes it takes; any number if there is no bound. -/
  room : Option Nat := none
deriving DecidableEq

namespace Wire

/-- Writes as many of the bytes as there is room for; fails if that is not all
of them. -/
def write (w : Wire) (bytes : ByteArray) : Except IoError Unit × Wire :=
  match w.room with
  | none => (.ok (), { w with written := w.written ++ bytes })
  | some room =>
    if bytes.size ≤ room then
      (.ok (), { written := w.written ++ bytes, room := some (room - bytes.size) })
    else
      (.error .outOfRoom,
        { written := w.written ++ bytes.extract 0 room, room := some 0 })

/-- Writes the encoding of a frame; a frame without one writes nothing. -/
def writeFrame (w : Wire) (f : Frame) : Except FrameError Unit × Wire :=
  match f.encode with
  | .error e => (.error e, w)
  | .ok bytes =>
    let (result, w) := w.write bytes
    (result.mapError .io, w)

end Wire

/-- One end of a connection: frames can be received from it, and sent over it. -/
class Link (σ : Type) extends FrameSource σ where
  /-- Sends a frame. -/
  send : Frame → σ → Except FrameError Unit × σ

/-- A connection whose frames come from a `κ` and go out over a wire. -/
@[ext] structure Socket (κ : Type) where
  source : κ
  wire : Wire := {}

namespace Socket

variable {κ : Type} [FrameSource κ]

/-- Receives a frame. -/
def next (s : Socket κ) : Except FrameError Frame × Socket κ :=
  let (frame, source) := FrameSource.next s.source
  (frame, { s with source })

/-- Sends a frame. -/
def send (f : Frame) (s : Socket κ) : Except FrameError Unit × Socket κ :=
  let (result, wire) := s.wire.writeFrame f
  (result, { s with wire })

/-- A socket has as much left to read as its source. -/
theorem size_lt_of_next {s s' : Socket κ} {f : Frame} (h : s.next = (.ok f, s')) :
    FrameSource.size s'.source < FrameSource.size s.source := by
  obtain ⟨h₁, h₂⟩ := Prod.mk.inj h
  subst h₂
  exact FrameSource.size_lt_of_next (Prod.ext h₁ rfl)

instance : Link (Socket κ) where
  next := next
  size s := FrameSource.size s.source
  size_lt_of_next := size_lt_of_next
  send := send

/-- What is received is what comes from the source. -/
theorem next_of_source {s : Socket κ} {source : κ} {x : Except FrameError Frame}
    (h : FrameSource.next s.source = (x, source)) :
    FrameSource.next s = (x, { s with source }) := by
  change ((FrameSource.next s.source).1,
    { s with source := (FrameSource.next s.source).2 }) = _
  rw [h]

/-- What is sent is written to the wire. -/
theorem send_of_writeFrame {s : Socket κ} {f : Frame} {wire : Wire}
    {x : Except FrameError Unit} (h : s.wire.writeFrame f = (x, wire)) :
    Link.send f s = (x, { s with wire }) := by
  change ((s.wire.writeFrame f).1, { s with wire := (s.wire.writeFrame f).2 }) = _
  rw [h]

end Socket

end Federation
