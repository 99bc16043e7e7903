/-
Federation/Frame/Encode.lean

Frames as bytes.

A frame is its type byte and its fields, all numbers with the least significant
byte first:

    tagged: port u16, federate u16, size u32, time i64, microstep u32, payload
    untimed: port u16, federate u16, size u32, payload absent: port u16,
    federate u16, time i64, microstep u32 neighbors: upstream count i32,
    downstream count i32, (federate u16, delay i64)*, (federate u16)*

`Frame.checkLimits` refuses a frame whose payload or neighbour lists are beyond
the limits; every other frame has an encoding. A federation id is cut off at its
255th byte. A missing delay is written as the least 64-bit number, a missing
port as -1.
-/
import Federation.Bytes.Concat
import Federation.Bytes.LittleEndian
import Federation.Frame.Basic

namespace Federation.Frame

open LittleEndian

/-- The bytes of a federation id that a frame carries. -/
def federationBytes (federation : String) : ByteArray :=
  federation.toByteArray.extract 0 maxFederationId

/-- The encoding of a federate and its federation. -/
def encodeIdentity (federate : FederateId) (federation : String) : ByteArray :=
  let id := federationBytes federation
  encode 2 federate.number.toNat ++ encode 1 id.size ++ id

/-- The encoding of a tag. -/
def encodeTag (tag : Tag) : ByteArray :=
  encodeInt 8 tag.time.ns ++ encode 4 tag.microstep.toNat

/-- The least 64-bit number, which stands for a missing delay. -/
def noDelay : Int := -9223372036854775808

/-- The encoding of an upstream neighbour. -/
def encodeUpstream (neighbor : FederateId × Delay) : ByteArray :=
  encode 2 neighbor.1.number.toNat ++
    encodeInt 8 ((neighbor.2.map Interval.ns).getD noDelay)

/-- The encoding of a tagged message. -/
def encodeTagged (m : TaggedMessage) : ByteArray :=
  encode 2 m.port.number.toNat ++ encode 2 m.federate.number.toNat ++
    encode 4 m.payload.size ++ encodeTag m.tag ++ m.payload

/-- The encoding of the fields of a frame. -/
def encodeFields : Frame → ByteArray
  | reject reason => encode 1 reason.code.toNat
  | ack => .empty
  | joinFederation federate federation => encodeIdentity federate federation
  | joinPeer federate federation => encodeIdentity federate federation
  | clockSyncRequest exchanges => encode 2 exchanges.toNat
  | clockSyncT1 time => encodeInt 8 time.ns
  | clockSyncT3 federate => encode 2 federate.number.toNat
  | clockSyncT4 time => encodeInt 8 time.ns
  | addressAdvertisement port => encodeInt 4 port.toNat
  | addressQuery federate => encode 2 federate.number.toNat
  | addressQueryReply port host =>
    encodeInt 4 ((port.map fun p => (p.toNat : Int)).getD (-1)) ++
      [host.a, host.b, host.c, host.d].toByteArray
  | untimedMessage m =>
    encode 2 m.port.number.toNat ++ encode 2 m.federate.number.toNat ++
      encode 4 m.payload.size ++ m.payload
  | peerTaggedMessage m => encodeTagged m
  | taggedMessage m => encodeTagged m
  | portAbsent notice =>
    encode 2 notice.port.number.toNat ++ encode 2 notice.federate.number.toNat ++
      encodeTag notice.tag
  | neighborStructure neighbors =>
    encodeInt 4 neighbors.upstream.length ++
      encodeInt 4 neighbors.downstream.length ++
      Bytes.concat (neighbors.upstream.map encodeUpstream) ++
      Bytes.concat (neighbors.downstream.map fun f => encode 2 f.number.toNat)
  | resign => .empty

/-- Refuses a payload that is too large. -/
def checkPayload (payload : ByteArray) : Except FrameError Unit :=
  if payload.size ≤ maxPayload then .ok () else .error (.tooLarge payload.size)

/-- Refuses a list of neighbours that is too long. -/
def checkCount (count : Nat) : Except FrameError Unit :=
  if count ≤ maxNeighbors then .ok () else .error (.tooManyNeighbors count)

/-- Refuses a frame that the other side would not accept. -/
def checkLimits : Frame → Except FrameError Unit
  | untimedMessage m => checkPayload m.payload
  | peerTaggedMessage m => checkPayload m.payload
  | taggedMessage m => checkPayload m.payload
  | neighborStructure neighbors => do
    checkCount neighbors.upstream.length
    checkCount neighbors.downstream.length
  | _ => .ok ()

/-- The encoding of a frame: its type byte and its fields. -/
def encode (f : Frame) : Except FrameError ByteArray := do
  f.checkLimits
  return LittleEndian.encode 1 f.kind.code.toNat ++ f.encodeFields

/-- Writes the encoding of a frame into a buffer with room for `room` bytes, all
of it or none. -/
def writeInto (f : Frame) (room : Nat) : Except FrameError ByteArray := do
  let bytes ← f.encode
  if bytes.size ≤ room then return bytes else throw (.io .outOfRoom)

end Federation.Frame
