/-
Federation/Frame/Basic.lean

The frames of the wire.

Federates, their peers and the coordinator talk in frames. A frame has a kind,
which its first byte names, and the fields of that kind. `FrameKind.code` and
`FrameKind.ofCode?` are the table of the type bytes.
-/
import Federation.Bytes.Concat
import Federation.Time.Tag
import Federation.Identifier
import Federation.Frame.Error

namespace Federation

/-- The kinds of frames. -/
inductive FrameKind where
  | reject
  | ack
  | joinFederation
  | joinPeer
  | clockSyncRequest
  | clockSyncT1
  | clockSyncT3
  | clockSyncT4
  | addressAdvertisement
  | addressQuery
  | addressQueryReply
  | untimedMessage
  | peerTaggedMessage
  | taggedMessage
  | portAbsent
  | neighborStructure
  | resign
deriving DecidableEq

namespace FrameKind

/-- The type byte of a kind. -/
def code : FrameKind → UInt8
  | reject => 0
  | joinFederation => 1
  | resign => 4
  | taggedMessage => 5
  | addressQuery => 13
  | addressAdvertisement => 14
  | joinPeer => 15
  | untimedMessage => 16
  | peerTaggedMessage => 17
  | clockSyncT1 => 19
  | clockSyncT3 => 20
  | clockSyncT4 => 21
  | portAbsent => 23
  | neighborStructure => 24
  | addressQueryReply => 52
  | clockSyncRequest => 253
  | ack => 255

/-- The kind that a type byte names. -/
def ofCode? : UInt8 → Option FrameKind
  | 0 => some reject
  | 1 => some joinFederation
  | 4 => some resign
  | 5 => some taggedMessage
  | 13 => some addressQuery
  | 14 => some addressAdvertisement
  | 15 => some joinPeer
  | 16 => some untimedMessage
  | 17 => some peerTaggedMessage
  | 19 => some clockSyncT1
  | 20 => some clockSyncT3
  | 21 => some clockSyncT4
  | 23 => some portAbsent
  | 24 => some neighborStructure
  | 52 => some addressQueryReply
  | 253 => some clockSyncRequest
  | 255 => some ack
  | _ => none

/-- The name of a kind, as diagnostics show it. -/
def name : FrameKind → String
  | reject => "Reject"
  | ack => "Ack"
  | joinFederation => "FedIds"
  | joinPeer => "P2pSendingFedId"
  | clockSyncRequest => "ClockSyncRequest"
  | clockSyncT1 => "ClockSyncT1"
  | clockSyncT3 => "ClockSyncT3"
  | clockSyncT4 => "ClockSyncT4"
  | addressAdvertisement => "AddressAdvertisement"
  | addressQuery => "AddressQuery"
  | addressQueryReply => "AddressQueryReply"
  | untimedMessage => "P2pMessage"
  | peerTaggedMessage => "P2pTaggedMessage"
  | taggedMessage => "TaggedMessage"
  | portAbsent => "PortAbsent"
  | neighborStructure => "NeighborStructure"
  | resign => "Resign"

/-- The type byte of a kind tells the kind. -/
theorem ofCode?_code (k : FrameKind) : ofCode? k.code = some k := by
  cases k <;> rfl

end FrameKind

/-- Why a connection is turned away. -/
inductive RejectReason where
  | federationIdMismatch
  | federateIdInUse
  | federateIdOutOfRange
  | unexpectedMessage
  | wrongServer
  /-- A reason without a name. -/
  | other (code : UInt8)
deriving DecidableEq

namespace RejectReason

/-- The byte of a reason. -/
def code : RejectReason → UInt8
  | federationIdMismatch => 1
  | federateIdInUse => 2
  | federateIdOutOfRange => 3
  | unexpectedMessage => 4
  | wrongServer => 5
  | other code => code

/-- The reason that a byte stands for. -/
def ofCode : UInt8 → RejectReason
  | 1 => federationIdMismatch
  | 2 => federateIdInUse
  | 3 => federateIdOutOfRange
  | 4 => unexpectedMessage
  | 5 => wrongServer
  | code => other code

/-- The name of a reason, as diagnostics show it. -/
def name : RejectReason → String
  | federationIdMismatch => "FederationIdMismatch"
  | federateIdInUse => "FederateIdInUse"
  | federateIdOutOfRange => "FederateIdOutOfRange"
  | unexpectedMessage => "UnexpectedMessage"
  | wrongServer => "WrongServer"
  | other code => "Other(" ++ toString code ++ ")"

end RejectReason

/-- The address of a host: four bytes. -/
@[ext] structure HostAddress where
  a : UInt8
  b : UInt8
  c : UInt8
  d : UInt8
deriving DecidableEq

namespace HostAddress

/-- The address that stands for no particular host. -/
def unspecified : HostAddress := ⟨0, 0, 0, 0⟩

/-- The address of the host itself. -/
def loopback : HostAddress := ⟨127, 0, 0, 1⟩

instance : Inhabited HostAddress := ⟨unspecified⟩

/-- An address prints as its bytes with points between. -/
def render (h : HostAddress) : String :=
  toString h.a ++ "." ++ toString h.b ++ "." ++ toString h.c ++ "." ++ toString h.d

end HostAddress

/-- A message on a physical connection. -/
@[ext] structure UntimedMessage where
  port : PortId
  /-- The federate that receives. -/
  federate : FederateId
  payload : ByteArray
deriving DecidableEq

/-- A message with the tag that it is intended for. -/
@[ext] structure TaggedMessage where
  port : PortId
  /-- The federate that receives. -/
  federate : FederateId
  tag : Tag
  payload : ByteArray
deriving DecidableEq

/-- The notice that a port stays absent up to and including a tag. -/
@[ext] structure AbsentNotice where
  port : PortId
  /-- The federate that receives. -/
  federate : FederateId
  tag : Tag
deriving DecidableEq

/-- The logical neighbours of a federate, as the coordinator learns them. -/
@[ext] structure Neighbors where
  /-- The federates that this one receives from, each with the least delay on
  any connection from it; no delay where some connection has no `after` clause.
  -/
  upstream : List (FederateId × Delay)
  /-- The federates that this one sends to. -/
  downstream : List FederateId
deriving DecidableEq

/-- A frame of the wire. -/
inductive Frame where
  | reject (reason : RejectReason)
  | ack
  /-- The first frame of a federate to the coordinator. -/
  | joinFederation (federate : FederateId) (federation : String)
  /-- The first frame of a federate to a peer. -/
  | joinPeer (federate : FederateId) (federation : String)
  /-- Asks the coordinator for a number of clock exchanges. -/
  | clockSyncRequest (exchanges : UInt16)
  | clockSyncT1 (time : Instant)
  | clockSyncT3 (federate : FederateId)
  | clockSyncT4 (time : Instant)
  /-- Tells the coordinator where the federate listens. -/
  | addressAdvertisement (port : UInt16)
  /-- Asks the coordinator where a federate listens. -/
  | addressQuery (federate : FederateId)
  /-- Answers such a question; no port as long as the federate has not told. -/
  | addressQueryReply (port : Option UInt16) (host : HostAddress)
  | untimedMessage (message : UntimedMessage)
  /-- A tagged message straight to the peer. -/
  | peerTaggedMessage (message : TaggedMessage)
  /-- A tagged message by way of the coordinator. -/
  | taggedMessage (message : TaggedMessage)
  | portAbsent (notice : AbsentNotice)
  | neighborStructure (neighbors : Neighbors)
  | resign
deriving DecidableEq

namespace Frame

/-- The kind of a frame. -/
def kind : Frame → FrameKind
  | reject _ => .reject
  | ack => .ack
  | joinFederation _ _ => .joinFederation
  | joinPeer _ _ => .joinPeer
  | clockSyncRequest _ => .clockSyncRequest
  | clockSyncT1 _ => .clockSyncT1
  | clockSyncT3 _ => .clockSyncT3
  | clockSyncT4 _ => .clockSyncT4
  | addressAdvertisement _ => .addressAdvertisement
  | addressQuery _ => .addressQuery
  | addressQueryReply _ _ => .addressQueryReply
  | untimedMessage _ => .untimedMessage
  | peerTaggedMessage _ => .peerTaggedMessage
  | taggedMessage _ => .taggedMessage
  | portAbsent _ => .portAbsent
  | neighborStructure _ => .neighborStructure
  | resign => .resign

/-- The name of the kind of a frame. -/
def kindName (f : Frame) : String := f.kind.name

/-- The federate that a data frame is addressed to. -/
def addressee? : Frame → Option FederateId
  | untimedMessage m => some m.federate
  | peerTaggedMessage m => some m.federate
  | taggedMessage m => some m.federate
  | portAbsent notice => some notice.federate
  | _ => none

/-- The most bytes that a payload may have. -/
def maxPayload : Nat := 67108864

/-- The most bytes of a federation id that a frame carries. -/
def maxFederationId : Nat := 255

/-- The most entries that a list of neighbours may have. -/
def maxNeighbors : Nat := 65536

end Frame

end Federation
