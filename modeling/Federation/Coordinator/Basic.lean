/-
Federation/Coordinator/Basic.lean

A coordinator.

The coordinator knows the federates of one federation. A federate that connects
goes through a conversation with it: it tells who it is, then its neighbours,
and from then on it may ask for clock synchronisation, advertise and ask for
addresses, have data relayed, and resign. A federate that is not welcome is told
why, and the conversation ends: first of all it must be of the federation, then
its number must be in range, then nobody else may be connected with that number.

`Coordinator.hear` is one step of such a conversation: a frame that comes in,
what the coordinator does, and the frames that it sends in turn. It does not
matter to the step which other conversations go on.
-/
import Federation.Clock
import Federation.Frame.Basic

namespace Federation

/-- What a coordinator knows of the federates. -/
structure Registry where
  connected : Std.ExtTreeSet FederateId := ∅
  /-- Where federates listen. -/
  addresses : Std.ExtTreeMap FederateId UInt16 := ∅
  neighbors : Std.ExtTreeMap FederateId Neighbors := ∅
  /-- The frames that came from federates after they had joined, but for those
  that ask something. -/
  received : List (FederateId × Frame) := []
  resigned : Std.ExtTreeSet FederateId := ∅
  /-- The reasons for which federates were not welcome. -/
  rejections : List RejectReason := []
  /-- The number of complete exchanges of clock synchronisation. -/
  exchanges : Nat := 0

/-- A coordinator of one federation. -/
structure Coordinator where
  federationId : String
  /-- The federates with lesser numbers may join. -/
  federates : UInt16
  clock : Clock
  registry : Registry := {}

/-- How far the conversation with a federate has come. -/
inductive HearingPhase where
  /-- The federate has yet to say who it is. -/
  | greeting
  /-- It has yet to tell its neighbours. -/
  | introducing (f : FederateId)
  /-- It may ask for anything. -/
  | relaying (f : FederateId)
  /-- It has yet to answer a T1; so many more exchanges follow. -/
  | syncing (f : FederateId) (more : Nat)
  | ended
deriving DecidableEq

/-- A frame that the coordinator sends. -/
inductive Letter where
  /-- To the federate that it hears. -/
  | back (f : Frame)
  /-- To a federate, if it is connected. -/
  | onward (receiver : FederateId) (f : Frame)
deriving DecidableEq

namespace Coordinator

variable (c : Coordinator)

/-- Changes what the coordinator knows. -/
def record (change : Registry → Registry) : Coordinator :=
  { c with registry := change c.registry }

/-- The coordinator after it has read its clock. -/
def tick : Coordinator := { c with clock := c.clock.tick }

/-- Why a federate may not join. -/
def refusal? (f : FederateId) (federationId : String) : Option RejectReason :=
  if federationId ≠ c.federationId then some .federationIdMismatch
  else if c.federates ≤ f.number then some .federateIdOutOfRange
  else if f ∈ c.registry.connected then some .federateIdInUse
  else none

/-- Sends a federate away. -/
def reject (reason : RejectReason) : Coordinator × HearingPhase × List Letter :=
  (c.record fun r => { r with rejections := r.rejections ++ [reason] }, .ended,
    [.back (.reject reason)])

/-- A federate goes. -/
def leave (f : FederateId) : Coordinator :=
  c.record fun r => { r with connected := r.connected.erase f }

/-- Keeps a frame of a federate. -/
def keep (f : FederateId) (frame : Frame) : Coordinator :=
  c.record fun r => { r with received := r.received ++ [(f, frame)] }

/-- Begins an exchange, with so many more to follow. -/
def beginExchange (f : FederateId) (more : Nat) :
    Coordinator × HearingPhase × List Letter :=
  (c.tick, .syncing f more, [.back (.clockSyncT1 c.clock.now)])

/-- A frame that says who the federate is. -/
def hearGreeting : Frame → Coordinator × HearingPhase × List Letter
  | .joinFederation f federationId =>
    match c.refusal? f federationId with
    | some reason => c.reject reason
    | none =>
      (c.record fun r => { r with connected := r.connected.insert f },
        .introducing f, [.back .ack])
  | _ => c.reject .unexpectedMessage

/-- A frame that tells the neighbours of a federate. -/
def hearNeighbors (f : FederateId) :
    Frame → Coordinator × HearingPhase × List Letter
  | .neighborStructure n =>
    (c.record fun r => { r with neighbors := r.neighbors.insert f n },
      .relaying f, [])
  | _ => (c.leave f).reject .unexpectedMessage

/-- A frame of a federate that has joined. -/
def hearMember (f : FederateId) (frame : Frame) :
    Coordinator × HearingPhase × List Letter :=
  match frame with
  | .clockSyncRequest exchanges =>
    if exchanges = 0 then (c, .relaying f, [])
      else c.beginExchange f (exchanges.toNat - 1)
  | .addressAdvertisement port =>
    (c.record fun r => { r with addresses := r.addresses.insert f port },
      .relaying f, [])
  | .addressQuery peer =>
    (c, .relaying f,
      [.back (.addressQueryReply c.registry.addresses[peer]? .loopback)])
  | .taggedMessage m => (c.keep f frame, .relaying f, [.onward m.federate frame])
  | .portAbsent notice =>
    (c.keep f frame, .relaying f, [.onward notice.federate frame])
  | .resign =>
    ((c.record fun r => { r with resigned := r.resigned.insert f }).leave f,
      .ended, [])
  | _ => (c.keep f frame, .relaying f, [])

/-- A frame that answers a T1. -/
def hearAnswer (f : FederateId) (more : Nat) :
    Frame → Coordinator × HearingPhase × List Letter
  | .clockSyncT3 _ =>
    let t4 := Letter.back (.clockSyncT4 c.clock.now)
    let c := c.tick.record fun r => { r with exchanges := r.exchanges + 1 }
    match more with
    | 0 => (c, .relaying f, [t4])
    | more + 1 =>
      let (c, phase, letters) := c.beginExchange f more
      (c, phase, t4 :: letters)
  | _ => (c.leave f, .ended, [])

/-- A frame of a federate in some phase of its conversation. -/
def hear (phase : HearingPhase) (frame : Frame) :
    Coordinator × HearingPhase × List Letter :=
  match phase with
  | .greeting => c.hearGreeting frame
  | .introducing f => c.hearNeighbors f frame
  | .relaying f => c.hearMember f frame
  | .syncing f more => c.hearAnswer f more frame
  | .ended => (c, .ended, [])

/-- The federate goes away without a word. One that has not told its neighbours
stays connected. -/
def lose : HearingPhase → Coordinator
  | .greeting | .introducing _ | .ended => c
  | .relaying f | .syncing f _ => c.leave f

end Coordinator

end Federation
