/-
Federation/Link/Endpoint.lean

The sending side of an established link.

A frame is written as one block, or not at all if it has no encoding. A write
that fails closes the endpoint, and so does `close`; a closed endpoint stays
closed and writes nothing.

`trySend` is for a sender that must not wait: if another write is in progress,
it does not send.
-/
import Federation.Fault
import Federation.Link.Basic

namespace Federation

/-- The sending side of a link to the coordinator or a peer. -/
@[ext] structure Endpoint where
  peer : Destination
  wire : Wire := {}
  isOpen : Bool := true
deriving DecidableEq

namespace Endpoint

/-- The block of bytes to write for a frame. -/
def encode (e : Endpoint) (f : Frame) : Except SendError ByteArray :=
  if e.isOpen then f.encode.mapError (.encode e.peer) else .error (.closed e.peer)

/-- Writes a block; closes the endpoint if that fails. -/
def write (e : Endpoint) (bytes : ByteArray) : Except SendError Unit × Endpoint :=
  match e.wire.write bytes with
  | (.ok (), wire) => (.ok (), { e with wire })
  | (.error source, wire) =>
    (.error (.io e.peer source), { e with wire, isOpen := false })

/-- Sends a frame. -/
def send (e : Endpoint) (f : Frame) : Except SendError Unit × Endpoint :=
  match e.encode f with
  | .error err => (.error err, e)
  | .ok bytes => e.write bytes

/-- Sends a frame unless another write is in progress. The result says whether
it was sent. -/
def trySend (e : Endpoint) (f : Frame) (busy : Bool) :
    Except SendError Bool × Endpoint :=
  match e.encode f with
  | .error err => (.error err, e)
  | .ok bytes =>
    if busy then (.ok false, e)
    else
      let (result, e) := e.write bytes
      (result.map fun _ => true, e)

/-- Closes the endpoint. -/
def close (e : Endpoint) : Endpoint := { e with isOpen := false }

end Endpoint

end Federation
