/-
Federation/Session/Network.lean

The world around a federate, as far as its start depends on it.

A `Network` says what becomes of everything that a starting federate asks the
world for: each attempt to reach the coordinator or a peer, the look-up of a
name, a port to listen at, a resource of its own host. What comes in over a
connection is a stream of frames with its end; what goes out is limited by the
room of the wire. The peers that come to this federate before it stops waiting
are given in their order, and not the moments at which they come.

Restriction: a host is told by the four bytes of its address, as frames tell it.
A coordinator that is reached at an address of another form, such as the
loopback address of sixteen bytes, which would count as the federate's own host,
is not modelled.
-/
import Federation.Link.Joining

namespace Federation

/-- What a federate needs of its own host when it starts. -/
inductive Resource where
  /-- The address of the coordinator at the other end of the link. -/
  | coordinatorAddress
  /-- Another handle of the link to the coordinator. -/
  | coordinatorHandle
  /-- Another handle of the link to a peer. -/
  | peerHandle (peer : FederateId)
  /-- Someone who accepts the peers that come. -/
  | acceptor
  /-- Someone who reads the link to the coordinator. -/
  | coordinatorReader
  /-- Someone who asks for further rounds of synchronisation. -/
  | clockSync
deriving DecidableEq

/-- A link to the coordinator that was opened. -/
structure CoordinatorLink where
  socket : Socket FrameStream
  /-- The host of the coordinator. -/
  remote : HostAddress
  /-- The federate's own host, if it is known. -/
  own : Option HostAddress := none

/-- Whether the coordinator runs on the federate's own host. -/
def CoordinatorLink.isSameHost (l : CoordinatorLink) : Bool :=
  l.remote.a = 127 || l.own = some l.remote

/-- What becomes of everything that a starting federate asks the world for. -/
structure Network where
  /-- The attempts to reach the coordinator. -/
  coordinator : Nat → Except IoError CoordinatorLink
  /-- The attempts to reach a peer at an address. -/
  peer : FederateId → ServerAddress → Nat → Except IoError (Socket FrameStream)
  /-- The address that a text stands for. -/
  resolve : String → Option ServerAddress
  /-- The port that is bound when one is asked for. -/
  bind : UInt16 → Except IoError UInt16
  /-- The peers that come, in order. -/
  arrivals : List (Socket FrameStream) := []
  /-- Why a resource is not to be had. -/
  missing : Resource → Option IoError := fun _ => none

namespace Network

/-- A network in which no attempt reaches anyone. -/
def silent (e : IoError) : Network where
  coordinator _ := .error e
  peer _ _ _ := .error e
  resolve _ := none
  bind p := .ok p

/-- A network with a coordinator on the federate's own host that follows a
script, whatever it hears, and with nobody else. -/
def scripted (script : FrameStream) : Network :=
  { silent .refused with
    coordinator := fun _ =>
      .ok { socket := { source := script }, remote := .loopback } }

end Network

end Federation
