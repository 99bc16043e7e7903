/-
Federation/Input.lean

What enters the reactions of a federate at a tag.

A logical inlet is awaited before the reactions behind it run: `Inlet.look` is
one look at the board for it, and `Inlet.await` the whole wait when nothing
comes in between. The wait ends no later than its deadline, the time of the tag
and, where federates advance on their own, the safe-to-process offsets of the
federate and of the reactions behind the port. A wait that ends without a
message resolves the port as absent.

`Inlet.receive` delivers a scheduled message: the port is annotated with its
arrival, then its value is set. The tag that a message was intended for is noted
where federates advance on their own.
-/
import Federation.Board.Wait
import Federation.Context
import Federation.Dispatch
import Federation.PortStore

namespace Federation.Inlet

variable {μ : Type} (i : Inlet)

/-- The port behind the inlet. -/
def destination : Port := i.connection.destination.port

/-- The moment at which a wait for the inlet at a tag ends. -/
def deadline (ctx : Context μ) (tag : Tag) : Instant :=
  (tag.time.saturatingAdd ctx.effectiveStpOffset).saturatingAdd
    (ctx.effective i.maxStp)

/-- The wait for the inlet at a tag. -/
def wait (ctx : Context μ) (tag : Tag) : Wait := ⟨i.port, tag, i.deadline ctx tag⟩

/-- What the end of a wait means for the port. -/
def resolve (status : PortStatus) (s : PortStore μ) : PortStore μ :=
  if status = .absent then s.markAbsent i.destination else s

/-- One look at the board by a wait for the inlet, when the clock shows `now`. -/
def look (w : Wait) (now : Instant) (b : Board) (s : PortStore μ) :
    WaitStep × Board × PortStore μ :=
  match b.check w now with
  | (b, .resolved status) => (.resolved status, b, i.resolve status s)
  | (b, .pending remaining) => (.pending remaining, b, s)

/-- A wait for the inlet at the current tag during which nothing else happens. -/
def await (ctx : Context μ) (now : Instant) (b : Board) (s : PortStore μ) :
    PortStatus × Board × PortStore μ :=
  let (b, status) := b.waitAlone (i.wait ctx s.tag) now
  (status, b, i.resolve status s)

/-- How the arrival of a message is noted. -/
def noteOf (ctx : Context μ) (m : ReceivedMessage) : ArrivalNote :=
  ⟨m.arrival,
    if ctx.isDecentralized && i.connection.isLogical then m.intended else none⟩

/-- The value of a payload on the connection. -/
def decode (codec : PayloadCodec μ) (payload : ByteArray) :
    Except Fault (PortValue μ) :=
  (codec.decode i.connection.serializer i.connection.valueType payload).mapError
    (.payload i.connection.render)

/-- Delivers a message to the port. -/
def receive (ctx : Context μ) (m : ReceivedMessage) (s : PortStore μ) :
    Except Fault Unit × PortStore μ :=
  let s := s.addNote i.destination (i.noteOf ctx m)
  match i.decode ctx.codec m.payload with
  | .ok value => (.ok (), s.set i.destination value)
  | .error e => (.error e, s)

end Federation.Inlet
