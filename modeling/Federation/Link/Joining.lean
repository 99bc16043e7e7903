/-
Federation/Link/Joining.lean

The conversation with the coordinator at the start.

A federate joins by telling its number, the id of its federation and, once the
coordinator has agreed, its neighbours. Then it may synchronise its clock, tell
where it listens, and ask where its peers do. From the moment that the federate
has joined, the coordinator may relay data to it: while the federate waits for
the answer to a question, it takes in the data that comes in front of the answer
(`nextControl`).

A peer that the coordinator does not know yet is asked for again, as often as
the policy allows, with the pauses of the policy. Where a peer is said to listen
at no host in particular, it is taken to listen at the coordinator's, whose
address has four bytes here as everywhere (see `Network`).
-/
import Federation.ClockSync.Startup
import Federation.Retry

namespace Federation

/-- Where a server listens. -/
@[ext] structure ServerAddress where
  host : HostAddress
  port : UInt16
deriving DecidableEq

/-- An address prints as its host and port with a colon between. -/
def ServerAddress.render (a : ServerAddress) : String :=
  a.host.render ++ ":" ++ toString a.port

/-- Whether the frame is data that the coordinator relays. -/
def Frame.isRelayed : Frame → Bool
  | taggedMessage _ | portAbsent _ => true
  | _ => false

namespace Joining

variable {σ : Type} [Link σ]

/-- The fault of an answer that is not the expected one. -/
def unexpected (expected : String) (f : Frame) : Fault :=
  .protocol "coordinator" ("expected " ++ expected ++ ", got " ++ f.kindName)

/-- Joins the federation and tells the neighbours. -/
def join (federate : FederateId) (federationId : String) (neighbors : Neighbors) :
    Conversation σ Unit := do
  Conversation.send "coordinator" (.joinFederation federate federationId)
  match ← Conversation.receive "coordinator" with
  | .ack => Conversation.send "coordinator" (.neighborStructure neighbors)
  | .reject reason => throw (.rejected "coordinator" reason)
  | f => throw (unexpected "Ack" f)

/-- Asks for some exchanges, and runs them if they are any. The result is the
correction of the clock. -/
def synchronizeClock (federate : FederateId) (exchanges : UInt16) :
    Conversation σ (Option Interval) := do
  Conversation.send "coordinator" (.clockSyncRequest exchanges)
  if exchanges = 0 then return none
  else return some (← ClockSync.synchronize federate exchanges)

/-- Tells the port at which the federate listens. -/
def advertise (port : UInt16) : Conversation σ Unit :=
  Conversation.send "coordinator" (.addressAdvertisement port)

/-- The next frame that is not relayed data. The data in front of it is taken in. -/
def nextControl (plan : Plan) (d : Dialogue σ) : Except Fault Frame × Dialogue σ :=
  match h : FrameSource.next d.link with
  | (.error e, link) => (.error (.ofRead "coordinator" e), { d with link })
  | (.ok f, link) =>
    have := FrameSource.size_lt_of_next h
    if f.isRelayed then
      match Dialogue.dispatch plan .coordinator f { d with link } with
      | (.error e, d) => (.error e, d)
      | (.ok _, d') => nextControl plan { d' with link }
    else (.ok f, { d with link })
termination_by FrameSource.size d.link

/-- Asks for a peer's address up to `left` times, after `n` times without an
answer. -/
def queryFrom (plan : Plan) (coordinator : HostAddress) (policy : RetryPolicy)
    (peer : FederateId) : (left n : Nat) → Conversation σ ServerAddress
  | 0, _ => throw (.unreachable ("address of " ++ peer.render) policy.attempts
      ⟨.notFound, "peer never advertised"⟩)
  | left + 1, n => do
    Conversation.send "coordinator" (.addressQuery peer)
    match ← (nextControl plan : Conversation σ Frame) with
    | .addressQueryReply (some port) host =>
      return ⟨if host = .unspecified then coordinator else host, port⟩
    | .addressQueryReply none _ =>
      Conversation.pause (policy.backoff n)
      queryFrom plan coordinator policy peer left (n + 1)
    | f => throw (unexpected "AddressQueryReply" f)

/-- Asks for the address of a peer until it is known. A peer on no particular
host is on the coordinator's. -/
def queryAddress (plan : Plan) (coordinator : HostAddress) (policy : RetryPolicy)
    (peer : FederateId) : Conversation σ ServerAddress :=
  queryFrom plan coordinator policy peer policy.attempts 0

end Joining

end Federation
